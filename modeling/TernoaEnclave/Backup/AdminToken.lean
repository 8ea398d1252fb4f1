import TernoaEnclave.Chain.Token

/-! # The admin authentication token

The bulk-backup token of `backup/admin_nftid.rs` carries a `u32` block number,
a `u8` validity period and the hash of the ids it authorizes.
`AuthenticationToken::is_valid` sorts it into a `ValidationResult`, computing
the window's bounds in machine integers: `isValid` is a release build, which
wraps, and `isValidChecked` a build with overflow checks, where `none` is the
panic. `windowResult` is the closed window of spec §3 in unbounded integers.
-/

namespace TernoaEnclave.Backup

open Chain (checkedSub checkedAdd checkedSub_eq_some checkedAdd_eq_some u32_lt_iff u32_toNat_lt
  u32_toNat_sub u32_toNat_add)

def maxValidationPeriod : UInt8 := 20

def maxBlockVariation : UInt8 := 5

@[simp] theorem maxValidationPeriod_toNat : maxValidationPeriod.toNat = 20 := rfl

@[simp] theorem maxBlockVariation_toNat : maxBlockVariation.toNat = 5 := rfl

/-- `u8` addition with overflow checks. -/
def checkedAddU8 (a b : UInt8) : Option UInt8 :=
  if a.toNat + b.toNat < UInt8.size then some (a + b) else none

theorem u8_lt_iff {a b : UInt8} : a < b ↔ a.toNat < b.toNat := Iff.rfl

@[simp] theorem u8_toUInt32_toNat (a : UInt8) : a.toUInt32.toNat = a.toNat := rfl

theorem u8_toNat_add (a b : UInt8) : (a + b).toNat = (a.toNat + b.toNat) % UInt8.size :=
  BitVec.toNat_add _ _

@[simp] theorem checkedAddU8_eq_some {a b c : UInt8} :
    checkedAddU8 a b = some c ↔ a.toNat + b.toNat < UInt8.size ∧ c.toNat = a.toNat + b.toNat := by
  unfold checkedAddU8
  split <;> rename_i h
  · have hadd : (a + b).toNat = a.toNat + b.toNat := (u8_toNat_add a b).trans (Nat.mod_eq_of_lt h)
    simp only [Option.some.injEq, h, true_and]
    exact ⟨fun hc => hc ▸ hadd, fun hc => UInt8.toNat.inj (hadd.trans hc.symm)⟩
  · simp only [reduceCtorEq, false_iff]; omega

/-- Validity time of the bulk data, bound to the hash of the ids. -/
structure AuthenticationToken where
  blockNumber : UInt32
  blockValidation : UInt8
  dataHash : String
  deriving DecidableEq, Repr

inductive ValidationResult where
  | success
  | errorRpcCall
  | expiredBlockNumber
  | futureBlockNumber
  | invalidPeriod
  deriving DecidableEq, Repr

/-- The derived `Debug` text of a result, which the handler's message shows. -/
def ValidationResult.debugText : ValidationResult → String
  | .success => "Success"
  | .errorRpcCall => "ErrorRpcCall"
  | .expiredBlockNumber => "ExpiredBlockNumber"
  | .futureBlockNumber => "FutureBlockNumber"
  | .invalidPeriod => "InvalidPeriod"

/-- The closed window of spec §3 in unbounded integers, failing in the code's
order: heights from `bn − 5` to `bn + bv + 5`, for periods up to 20. -/
def windowResult (bn bv h : Nat) : ValidationResult :=
  if (h : Int) < bn - 5 then .expiredBlockNumber
  else if 20 < bv then .invalidPeriod
  else if bn + bv + 5 < h then .futureBlockNumber
  else .success

namespace AuthenticationToken

/-- Models `AuthenticationToken::is_valid`, `currentBlockNumber` being what
`get_current_block_number` returned, as a release build runs it. -/
def isValid (t : AuthenticationToken) (currentBlockNumber : Except String UInt32) :
    ValidationResult :=
  match currentBlockNumber with
  | .error _ => .errorRpcCall
  | .ok lastBlockNumber =>
    if lastBlockNumber < t.blockNumber - maxBlockVariation.toUInt32 then .expiredBlockNumber
    else if t.blockValidation > maxValidationPeriod then .invalidPeriod
    else if lastBlockNumber > t.blockNumber + (t.blockValidation + maxBlockVariation).toUInt32 then
      .futureBlockNumber
    else .success

/-- `is_valid` with overflow checks. -/
def isValidChecked (t : AuthenticationToken) (currentBlockNumber : Except String UInt32) :
    Option ValidationResult :=
  match currentBlockNumber with
  | .error _ => some .errorRpcCall
  | .ok lastBlockNumber => do
    let lower ← checkedSub t.blockNumber maxBlockVariation.toUInt32
    if lastBlockNumber < lower then pure .expiredBlockNumber
    else if t.blockValidation > maxValidationPeriod then pure .invalidPeriod
    else
      let period ← checkedAddU8 t.blockValidation maxBlockVariation
      let upper ← checkedAdd t.blockNumber period.toUInt32
      pure (if lastBlockNumber > upper then .futureBlockNumber else .success)

variable {t : AuthenticationToken} {h : UInt32}

/-- The release build read on `Nat`: the lower bound and the upper bound wrap. -/
theorem isValid_ok (t : AuthenticationToken) (h : UInt32) :
    t.isValid (.ok h) =
      if h.toNat < (UInt32.size - 5 + t.blockNumber.toNat) % UInt32.size then .expiredBlockNumber
      else if 20 < t.blockValidation.toNat then .invalidPeriod
      else if (t.blockNumber.toNat + (t.blockValidation.toNat + 5) % UInt8.size) % UInt32.size <
          h.toNat then .futureBlockNumber
      else .success := by
  simp only [isValid, u32_lt_iff, u8_lt_iff, u32_toNat_sub, u32_toNat_add, u8_toUInt32_toNat,
    u8_toNat_add]
  rfl

/-- The build with overflow checks read on `Nat`: it panics on a block number
below 5, and on an upper bound past `u32::MAX` once the lower comparison and the
period check have passed. -/
theorem isValidChecked_ok (t : AuthenticationToken) (h : UInt32) :
    t.isValidChecked (.ok h) =
      if t.blockNumber.toNat < 5 then none
      else if h.toNat < t.blockNumber.toNat - 5 then some .expiredBlockNumber
      else if 20 < t.blockValidation.toNat then some .invalidPeriod
      else if UInt32.size ≤ t.blockNumber.toNat + t.blockValidation.toNat + 5 then none
      else some (if t.blockNumber.toNat + t.blockValidation.toNat + 5 < h.toNat then
        .futureBlockNumber else .success) := by
  have h5 : maxBlockVariation.toUInt32.toNat = 5 := rfl
  unfold isValidChecked
  by_cases hlow : t.blockNumber.toNat < 5
  · have hsub : checkedSub t.blockNumber maxBlockVariation.toUInt32 = none :=
      if_neg (by rw [Chain.u32_le_iff, h5]; omega)
    simp only [hsub, hlow, if_true, Option.bind_eq_bind, Option.none_bind]
  have hle : maxBlockVariation.toUInt32 ≤ t.blockNumber := by rw [Chain.u32_le_iff, h5]; omega
  have hlower : (t.blockNumber - maxBlockVariation.toUInt32).toNat = t.blockNumber.toNat - 5 := by
    rw [UInt32.toNat_sub_of_le _ _ hle, h5]
  simp only [checkedSub, if_pos hle, hlow, if_false, Option.bind_eq_bind, Option.some_bind,
    u32_lt_iff, hlower, gt_iff_lt, u8_lt_iff, maxValidationPeriod_toNat]
  by_cases hexp : h.toNat < t.blockNumber.toNat - 5
  · simp only [if_pos hexp]; rfl
  by_cases hper : 20 < t.blockValidation.toNat
  · simp only [if_neg hexp, if_pos hper]; rfl
  have hbv : t.blockValidation.toNat + maxBlockVariation.toNat < UInt8.size := by
    simp only [maxBlockVariation_toNat, UInt8.size]; omega
  have hperiod : (t.blockValidation + maxBlockVariation).toUInt32.toNat =
      t.blockValidation.toNat + 5 := by
    rw [u8_toUInt32_toNat, u8_toNat_add, Nat.mod_eq_of_lt hbv, maxBlockVariation_toNat]
  simp only [if_neg hexp, if_neg hper, checkedAddU8, if_pos hbv, Option.some_bind, checkedAdd,
    hperiod]
  by_cases hover : UInt32.size ≤ t.blockNumber.toNat + t.blockValidation.toNat + 5
  · rw [if_neg (by omega), if_pos hover, Option.none_bind]
  have hupper : (t.blockNumber + (t.blockValidation + maxBlockVariation).toUInt32).toNat =
      t.blockNumber.toNat + t.blockValidation.toNat + 5 := by
    rw [u32_toNat_add, hperiod, Nat.mod_eq_of_lt (by omega)]; omega
  rw [if_pos (by omega), if_neg hover, Option.some_bind, hupper]
  rfl

/-- Whenever the build with overflow checks does not panic, it agrees with the
release build. -/
theorem isValid_of_isValidChecked {c : Except String UInt32} {r : ValidationResult}
    (hr : t.isValidChecked c = some r) : t.isValid c = r := by
  rcases c with e | h
  · cases hr; rfl
  have := u32_toNat_lt t.blockNumber
  rw [isValidChecked_ok] at hr
  rw [isValid_ok]
  by_cases hlow : t.blockNumber.toNat < 5
  · rw [if_pos hlow] at hr; cases hr
  rw [if_neg hlow] at hr
  rw [show (UInt32.size - 5 + t.blockNumber.toNat) % UInt32.size = t.blockNumber.toNat - 5 by
    simp only [UInt32.size] at *; omega]
  by_cases hexp : h.toNat < t.blockNumber.toNat - 5
  · rw [if_pos hexp] at hr ⊢; exact Option.some.inj hr
  rw [if_neg hexp] at hr ⊢
  by_cases hper : 20 < t.blockValidation.toNat
  · rw [if_pos hper] at hr ⊢; exact Option.some.inj hr
  rw [if_neg hper] at hr ⊢
  by_cases hover : UInt32.size ≤ t.blockNumber.toNat + t.blockValidation.toNat + 5
  · rw [if_pos hover] at hr; cases hr
  rw [if_neg hover] at hr
  rw [show (t.blockNumber.toNat + (t.blockValidation.toNat + 5) % UInt8.size) % UInt32.size =
    t.blockNumber.toNat + t.blockValidation.toNat + 5 by
    simp only [UInt8.size, UInt32.size] at *; omega]
  exact Option.some.inj hr

/-- The checked build panics exactly on a block number below 5, and on an
upper bound past `u32::MAX` for a height at or above the lower bound and a
period the code accepts. -/
theorem isValidChecked_eq_none_iff :
    t.isValidChecked (.ok h) = none ↔ t.blockNumber.toNat < 5 ∨
      t.blockNumber.toNat - 5 ≤ h.toNat ∧ t.blockValidation.toNat ≤ 20 ∧
        UInt32.size ≤ t.blockNumber.toNat + t.blockValidation.toNat + 5 := by
  rw [isValidChecked_ok]
  by_cases hlow : t.blockNumber.toNat < 5
  · rw [if_pos hlow]; simp only [hlow, true_or]
  by_cases hexp : h.toNat < t.blockNumber.toNat - 5
  · simp only [if_neg hlow, if_pos hexp, reduceCtorEq, false_iff]; omega
  by_cases hper : 20 < t.blockValidation.toNat
  · simp only [if_neg hlow, if_neg hexp, if_pos hper, reduceCtorEq, false_iff]; omega
  simp only [if_neg hlow, if_neg hexp, if_neg hper, ite_eq_left_iff, reduceCtorEq, imp_false,
    not_not]
  omega

/-- Below the top of the `u32` range and from block number 5 on, `is_valid`
runs without overflow and returns the verdict of the closed window. -/
theorem isValid_closed_window (t : AuthenticationToken) (h : UInt32)
    (hlow : 5 ≤ t.blockNumber.toNat)
    (hhigh : t.blockNumber.toNat + t.blockValidation.toNat + 5 < UInt32.size) :
    t.isValidChecked (.ok h) =
        some (windowResult t.blockNumber.toNat t.blockValidation.toNat h.toNat) ∧
      t.isValid (.ok h) = windowResult t.blockNumber.toNat t.blockValidation.toNat h.toNat := by
  have hc : t.isValidChecked (.ok h) =
      some (windowResult t.blockNumber.toNat t.blockValidation.toNat h.toNat) := by
    rw [isValidChecked_ok, if_neg (by omega), windowResult]
    simp only [show ((h.toNat : Int) < t.blockNumber.toNat - 5 ↔ h.toNat < t.blockNumber.toNat - 5)
      by omega, if_neg (Nat.not_le.mpr hhigh), apply_ite some]
  exact ⟨hc, isValid_of_isValidChecked hc⟩

theorem isValid_closed_window_at_1000 :
    5 ≤ (1000 : UInt32).toNat ∧ (1000 : UInt32).toNat + (20 : UInt8).toNat + 5 < UInt32.size ∧
      ((⟨1000, 20, ""⟩ : AuthenticationToken).isValidChecked (.ok 995) =
          some (windowResult (1000 : UInt32).toNat (20 : UInt8).toNat (995 : UInt32).toNat) ∧
        (⟨1000, 20, ""⟩ : AuthenticationToken).isValid (.ok 995) =
          windowResult (1000 : UInt32).toNat (20 : UInt8).toNat (995 : UInt32).toNat) :=
  ⟨by decide, by decide, isValid_closed_window ⟨1000, 20, ""⟩ 995 (by decide) (by decide)⟩

/-- Below block number 5 the release build's lower bound `bn − 5` wraps to
`2^32 + bn − 5`, so every lower height is reported expired. -/
theorem isValid_expired_of_wrapped_lower (hbn : t.blockNumber.toNat < 5)
    (hh : h.toNat < UInt32.size - 5 + t.blockNumber.toNat) :
    t.isValid (.ok h) = .expiredBlockNumber := by
  rw [isValid_ok, if_pos]
  rwa [Nat.mod_eq_of_lt (by simp only [UInt32.size] at hh ⊢; omega)]

/-- Both ends of the `u32` range leave the closed window: at block number 0 the
lower bound `0 − 5` underflows, and at `u32::MAX` the upper bound overflows. A
build with overflow checks panics; a release build rejects a height the window
holds. -/
theorem isValid_overflows_at_range_ends :
    windowResult 0 0 0 = .success ∧
      (⟨0, 0, ""⟩ : AuthenticationToken).isValidChecked (.ok 0) = none ∧
      (⟨0, 0, ""⟩ : AuthenticationToken).isValid (.ok 0) = .expiredBlockNumber ∧
    windowResult 4294967295 0 4294967295 = .success ∧
      (⟨4294967295, 0, ""⟩ : AuthenticationToken).isValidChecked (.ok 4294967295) = none ∧
      (⟨4294967295, 0, ""⟩ : AuthenticationToken).isValid (.ok 4294967295) = .futureBlockNumber :=
  ⟨by decide, by decide, isValid_expired_of_wrapped_lower (by decide) (by decide), by decide, by decide,
    by decide⟩

end AuthenticationToken

end TernoaEnclave.Backup
