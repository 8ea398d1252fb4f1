import TernoaEnclave.Chain.Types

/-! # The per-secret authentication token

`AuthenticationToken::is_valid` compares the current height with a window
computed in `u32`. A release build wraps on overflow, a build with overflow
checks panics; `isValid` is the first and `isValidChecked` the second, where
`none` is the panic.
-/

namespace TernoaEnclave.Chain

/-- `u32` subtraction with overflow checks. -/
def checkedSub (a b : UInt32) : Option UInt32 :=
  if b ≤ a then some (a - b) else none

/-- `u32` addition with overflow checks. -/
def checkedAdd (a b : UInt32) : Option UInt32 :=
  if a.toNat + b.toNat < UInt32.size then some (a + b) else none

theorem u32_lt_iff {a b : UInt32} : a < b ↔ a.toNat < b.toNat := Iff.rfl

theorem u32_le_iff {a b : UInt32} : a ≤ b ↔ a.toNat ≤ b.toNat := Iff.rfl

theorem u32_toNat_lt (a : UInt32) : a.toNat < 4294967296 := a.toNat_lt_size

/-- Wrapping `u32` addition, read on `Nat`. -/
theorem u32_toNat_add (a b : UInt32) : (a + b).toNat = (a.toNat + b.toNat) % UInt32.size :=
  BitVec.toNat_add _ _

/-- Wrapping `u32` subtraction, read on `Nat`. -/
theorem u32_toNat_sub (a b : UInt32) :
    (a - b).toNat = (UInt32.size - b.toNat + a.toNat) % UInt32.size :=
  BitVec.toNat_sub _ _

@[simp] theorem checkedSub_eq_some {a b c : UInt32} :
    checkedSub a b = some c ↔ b.toNat ≤ a.toNat ∧ c.toNat = a.toNat - b.toNat := by
  unfold checkedSub
  split <;> rename_i h <;> rw [u32_le_iff] at h
  · simp only [Option.some.injEq, h, true_and]
    constructor
    · rintro rfl; exact UInt32.toNat_sub_of_le _ _ h
    · intro hc; exact UInt32.toNat.inj (hc ▸ UInt32.toNat_sub_of_le _ _ h)
  · simp only [reduceCtorEq, false_iff]; omega

@[simp] theorem checkedAdd_eq_some {a b c : UInt32} :
    checkedAdd a b = some c ↔ a.toNat + b.toNat < UInt32.size ∧ c.toNat = a.toNat + b.toNat := by
  unfold checkedAdd
  split <;> rename_i h
  · have hadd : (a + b).toNat = a.toNat + b.toNat :=
      (BitVec.toNat_add _ _).trans (Nat.mod_eq_of_lt h)
    simp only [Option.some.injEq, h, true_and]
    exact ⟨fun hc => hc ▸ hadd, fun hc => UInt32.toNat.inj (hadd.trans hc.symm)⟩
  · simp only [reduceCtorEq, false_iff]; omega

namespace AuthenticationToken

/-- Models `AuthenticationToken::serialize`. -/
def serialize (t : AuthenticationToken) : String :=
  toString t.blockNumber ++ "_" ++ toString t.blockValidation

/-- Models `AuthenticationToken::is_valid` at the height `lastBlockNumber` that
`get_current_block_number` returned, as a release build runs it. -/
def isValid (t : AuthenticationToken) (lastBlockNumber : UInt32) : Bool :=
  decide (lastBlockNumber > t.blockNumber - 3) &&
    decide (lastBlockNumber < t.blockNumber + t.blockValidation + 3)

/-- `is_valid` with overflow checks. `&&` short-circuits, so the upper bound is
only computed once the lower comparison holds. -/
def isValidChecked (t : AuthenticationToken) (lastBlockNumber : UInt32) : Option Bool := do
  let lower ← checkedSub t.blockNumber 3
  if lastBlockNumber > lower then
    let sum ← checkedAdd t.blockNumber t.blockValidation
    let upper ← checkedAdd sum 3
    pure (decide (lastBlockNumber < upper))
  else pure false

variable {t : AuthenticationToken} {h : UInt32}

/-- The build with overflow checks read on `Nat`: it panics on a block number
below 3, and on an upper bound past `u32::MAX` once the lower comparison holds. -/
theorem isValidChecked_eq (t : AuthenticationToken) (h : UInt32) :
    t.isValidChecked h =
      if t.blockNumber.toNat < 3 then none
      else if t.blockNumber.toNat - 3 < h.toNat then
        if t.blockNumber.toNat + t.blockValidation.toNat + 3 < UInt32.size then
          some (decide (h.toNat < t.blockNumber.toNat + t.blockValidation.toNat + 3))
        else none
      else some false := by
  have h3 : (3 : UInt32).toNat = 3 := rfl
  unfold isValidChecked
  by_cases hlow : t.blockNumber.toNat < 3
  · rw [if_pos hlow, checkedSub, if_neg (by rw [u32_le_iff, h3]; omega)]; rfl
  have hle : (3 : UInt32) ≤ t.blockNumber := by rw [u32_le_iff, h3]; omega
  have hlower : (t.blockNumber - 3).toNat = t.blockNumber.toNat - 3 := by
    rw [UInt32.toNat_sub_of_le _ _ hle, h3]
  simp only [checkedSub, if_pos hle, if_neg hlow, Option.bind_eq_bind, Option.some_bind,
    gt_iff_lt, u32_lt_iff, hlower]
  by_cases hgt : t.blockNumber.toNat - 3 < h.toNat
  · simp only [if_pos hgt, checkedAdd, h3]
    by_cases hsum : t.blockNumber.toNat + t.blockValidation.toNat < UInt32.size
    · have hs : (t.blockNumber + t.blockValidation).toNat =
          t.blockNumber.toNat + t.blockValidation.toNat := by
        rw [u32_toNat_add, Nat.mod_eq_of_lt hsum]
      rw [if_pos hsum, Option.some_bind, hs]
      by_cases hup : t.blockNumber.toNat + t.blockValidation.toNat + 3 < UInt32.size
      · have hu : (t.blockNumber + t.blockValidation + 3).toNat =
            t.blockNumber.toNat + t.blockValidation.toNat + 3 := by
          rw [u32_toNat_add, hs, h3, Nat.mod_eq_of_lt hup]
        rw [if_pos hup, if_pos hup, Option.some_bind, hu]; rfl
      · rw [if_neg hup, if_neg hup]; rfl
    · rw [if_neg hsum, if_neg (by omega)]; rfl
  · simp only [if_neg hgt]; rfl

/-- Whenever the build with overflow checks does not panic, it agrees with the
release build. -/
theorem isValid_of_isValidChecked {b : Bool} (hb : t.isValidChecked h = some b) :
    t.isValid h = b := by
  have h3 : (3 : UInt32).toNat = 3 := rfl
  have := u32_toNat_lt t.blockNumber
  have := u32_toNat_lt t.blockValidation
  rw [isValidChecked_eq] at hb
  simp only [isValid, u32_lt_iff, u32_toNat_sub, u32_toNat_add, h3]
  split_ifs at hb with hlow hgt hup <;> cases hb
  all_goals
    have hl : (UInt32.size - 3 + t.blockNumber.toNat) % UInt32.size = t.blockNumber.toNat - 3 := by
      simp only [UInt32.size] at *; omega
    rw [hl]
  · have hu : ((t.blockNumber.toNat + t.blockValidation.toNat) % UInt32.size + 3) % UInt32.size =
        t.blockNumber.toNat + t.blockValidation.toNat + 3 := by
      simp only [UInt32.size] at *; omega
    simp only [hu, hgt, decide_True, Bool.true_and]
  · simp only [hgt, decide_False, Bool.false_and]

/-- Spec §3 reads `is_valid` as the half-open window `[bn − 3, bn + bv + 3)` in
unbounded integers; at `bn = 3`, `bv = 0` and height `0` the code rejects the
lower edge. -/
theorem isValid_lower_edge_rejected :
    ¬ ∀ (t : AuthenticationToken) (h : UInt32), t.isValidChecked h =
      some (decide ((t.blockNumber.toNat : Int) - 3 ≤ h.toNat ∧
        (h.toNat : Int) < t.blockNumber.toNat + t.blockValidation.toNat + 3)) :=
  fun hall => absurd (hall ⟨3, 0⟩ 0) (by decide)

/-- Where the window's bounds are `u32` values, `is_valid` runs without
overflow and accepts exactly the open window `(bn − 3, bn + bv + 3)`. -/
theorem isValid_open_window (t : AuthenticationToken) (h : UInt32)
    (hlow : 3 ≤ t.blockNumber.toNat)
    (hhigh : t.blockNumber.toNat + t.blockValidation.toNat + 3 < UInt32.size) :
    t.isValidChecked h = some (t.isValid h) ∧
      (t.isValid h = true ↔ (t.blockNumber.toNat : Int) - 3 < h.toNat ∧
        (h.toNat : Int) < t.blockNumber.toNat + t.blockValidation.toNat + 3) := by
  have hc := isValidChecked_eq t h
  rw [if_neg (by omega), if_pos hhigh] at hc
  obtain ⟨b, hb⟩ : ∃ b, t.isValidChecked h = some b := by
    rw [hc]; split_ifs <;> exact ⟨_, rfl⟩
  have hv := isValid_of_isValidChecked hb
  refine ⟨hv ▸ hb, ?_⟩
  rw [hv, ← Option.some_inj, ← hb, hc]
  split_ifs with hgt
  · simp only [Option.some.injEq, decide_eq_true_eq]; omega
  · simp only [Option.some.injEq, Bool.false_eq_true, false_iff]; omega

theorem isValid_open_window_at_1000 :
    3 ≤ (1000 : UInt32).toNat ∧ (1000 : UInt32).toNat + (10000 : UInt32).toNat + 3 < UInt32.size ∧
      ((⟨1000, 10000⟩ : AuthenticationToken).isValidChecked 998 =
          some ((⟨1000, 10000⟩ : AuthenticationToken).isValid 998) ∧
        ((⟨1000, 10000⟩ : AuthenticationToken).isValid 998 = true ↔
          ((1000 : UInt32).toNat : Int) - 3 < (998 : UInt32).toNat ∧
            ((998 : UInt32).toNat : Int) < (1000 : UInt32).toNat + (10000 : UInt32).toNat + 3)) :=
  ⟨by decide, by decide, isValid_open_window ⟨1000, 10000⟩ 998 (by decide) (by decide)⟩

/-- Both ends of the `u32` range leave the window. Below block number 3 the
lower bound `bn − 3` underflows: a build with overflow checks panics at every
height, and a release build wraps the bound to `2^32 + bn − 3` and so rejects
every height up to it. From block number 3 on, once a height passes the lower
comparison, an upper bound `bn + bv + 3` past `u32::MAX` overflows (`&&`
short-circuits, so a height at or below `bn − 3` never computes it): a build
with overflow checks panics, and a release build compares with the bound
wrapped modulo `2^32`. -/
theorem isValid_wraps_at_range_ends (t : AuthenticationToken) (h : UInt32) :
    (t.blockNumber.toNat < 3 → t.isValidChecked h = none ∧
      (h.toNat ≤ UInt32.size - 3 + t.blockNumber.toNat → t.isValid h = false)) ∧
    (3 ≤ t.blockNumber.toNat → t.blockNumber.toNat - 3 < h.toNat →
      UInt32.size ≤ t.blockNumber.toNat + t.blockValidation.toNat + 3 →
      t.isValidChecked h = none ∧
        t.isValid h = decide (h.toNat <
          (t.blockNumber.toNat + t.blockValidation.toNat + 3) % UInt32.size)) := by
  have h3 : (3 : UInt32).toNat = 3 := rfl
  have hbn := u32_toNat_lt t.blockNumber
  have hbv := u32_toNat_lt t.blockValidation
  have hlower : t.blockNumber.toNat < 3 →
      (t.blockNumber - 3).toNat = UInt32.size - 3 + t.blockNumber.toNat := fun hlow => by
    rw [u32_toNat_sub, h3, Nat.mod_eq_of_lt (by simp only [UInt32.size]; omega)]
  refine ⟨fun hlow => ⟨by rw [isValidChecked_eq, if_pos hlow], fun hle => ?_⟩,
    fun hlow hgt hover => ⟨by rw [isValidChecked_eq, if_neg (by omega), if_pos hgt, if_neg (by omega)], ?_⟩⟩
  · simp only [isValid, gt_iff_lt, u32_lt_iff, hlower hlow, Bool.and_eq_false_iff,
      decide_eq_false_iff_not]
    exact .inl (by omega)
  · have hl : (t.blockNumber - 3).toNat = t.blockNumber.toNat - 3 := by
      rw [u32_toNat_sub, h3]; simp only [UInt32.size] at *; omega
    have hu : (t.blockNumber + t.blockValidation + 3).toNat =
        (t.blockNumber.toNat + t.blockValidation.toNat + 3) % UInt32.size := by
      rw [u32_toNat_add, u32_toNat_add, h3, Nat.mod_add_mod]
    simp only [isValid, gt_iff_lt, u32_lt_iff, hl, hu, decide_eq_true hgt, Bool.true_and]

theorem isValid_wraps_at_range_ends_demo :
    (⟨0, 0⟩ : AuthenticationToken).isValidChecked 0 = none ∧
      (⟨0, 0⟩ : AuthenticationToken).isValid 0 = false ∧
      (⟨4294967295, 0⟩ : AuthenticationToken).isValidChecked 4294967295 = none ∧
      (⟨4294967295, 0⟩ : AuthenticationToken).isValid 4294967295 = false :=
  have hlow := (isValid_wraps_at_range_ends ⟨0, 0⟩ 0).1 (by decide)
  have hhigh := (isValid_wraps_at_range_ends ⟨4294967295, 0⟩ 4294967295).2 (by decide) (by decide)
    (by decide)
  ⟨hlow.1, hlow.2 (by decide), hhigh.1, hhigh.2⟩
end AuthenticationToken

end TernoaEnclave.Chain
