import Mathlib.Data.List.Basic
import Mathlib.Tactic.IntervalCases

/-! # Rust string operations on character lists

Every pattern the packet parsers look for (`<Bytes>`, `</Bytes>`, `_`, `+` and
the ASCII digits) is a single byte in UTF-8, so `starts_with`, `ends_with`,
`strip_prefix`, `strip_suffix`, `contains`, `split` and `u32::from_str` treat
the characters of a field exactly as they treat its bytes. They are modelled
here on `List Char`, the `data` of a Lean `String`.
-/

namespace TernoaEnclave.Text

/-! ## The `<Bytes>` wrapper -/

/-- The marker Polkadot.js writes before the text it signs. -/
def bytesPrefix : List Char := "<Bytes>".data

/-- The marker Polkadot.js writes after the text it signs. -/
def bytesSuffix : List Char := "</Bytes>".data

/-- `s.starts_with("<Bytes>") && s.ends_with("</Bytes>")`. -/
def isWrapped (s : List Char) : Bool :=
  bytesPrefix.isPrefixOf s && bytesSuffix.isSuffixOf s

private theorem prefix_not_overlapping :
    ∀ k < 7, bytesPrefix.isPrefixOf (bytesPrefix.take k ++ bytesSuffix) = false := by
  decide

/-- The two markers cannot share characters, so a wrapped field holds both in
full and is at least 15 characters long. -/
theorem length_of_isWrapped {s : List Char} (h : isWrapped s) : 15 ≤ s.length := by
  simp only [isWrapped, Bool.and_eq_true, List.isPrefixOf_iff_prefix,
    List.isSuffixOf_iff_suffix] at h
  obtain ⟨hp, y, rfl⟩ := h
  by_contra hlt
  have hy : y.length < 7 := by simp [bytesSuffix] at hlt; omega
  have hyp : y <+: bytesPrefix :=
    List.prefix_of_prefix_length_le (List.prefix_append y bytesSuffix) hp
      (by simp [bytesPrefix]; omega)
  rw [List.prefix_iff_eq_take.mp hyp] at hp
  have := prefix_not_overlapping y.length hy
  rw [← List.isPrefixOf_iff_prefix, this] at hp
  exact Bool.false_ne_true hp

/-- A wrapped field is the two markers around an inner text. -/
theorem isWrapped_iff {s : List Char} :
    isWrapped s ↔ ∃ inner, s = bytesPrefix ++ inner ++ bytesSuffix := by
  constructor
  · intro h
    have hlen := length_of_isWrapped h
    simp only [isWrapped, Bool.and_eq_true, List.isPrefixOf_iff_prefix,
      List.isSuffixOf_iff_suffix] at h
    obtain ⟨⟨rest, rfl⟩, hs⟩ := h
    obtain ⟨inner, rfl⟩ := List.suffix_of_suffix_length_le hs (List.suffix_append _ rest)
      (by simp [bytesPrefix, bytesSuffix] at hlen ⊢; omega)
    exact ⟨inner, by simp⟩
  · rintro ⟨inner, rfl⟩
    simp only [isWrapped, Bool.and_eq_true, List.isPrefixOf_iff_prefix,
      List.isSuffixOf_iff_suffix, List.append_assoc]
    exact ⟨List.prefix_append _ _, (List.suffix_append inner _).trans (List.suffix_append _ _)⟩

/-- The same test on a Lean `String`: the field is the markers around a text. -/
theorem isWrapped_data_iff {s : String} :
    isWrapped s.data ↔ ∃ inner : String, s = "<Bytes>" ++ inner ++ "</Bytes>" := by
  rw [isWrapped_iff]
  constructor
  · rintro ⟨inner, h⟩
    exact ⟨⟨inner⟩, String.ext h⟩
  · rintro ⟨inner, rfl⟩
    exact ⟨inner.data, rfl⟩

/-- A field holds at least as many UTF-8 bytes as characters. -/
theorem length_le_utf8ByteSize (s : String) : s.length ≤ s.utf8ByteSize := by
  obtain ⟨cs⟩ := s
  show cs.length ≤ String.utf8ByteSize.go cs
  induction cs with
  | nil => exact Nat.le_refl 0
  | cons c cs ih =>
    have := c.utf8Size_pos
    simp only [List.length_cons, String.utf8ByteSize.go]
    omega

@[simp] theorem dropPrefix?_bytesPrefix (rest : List Char) :
    (bytesPrefix ++ rest).dropPrefix? bytesPrefix = some rest :=
  List.dropPrefix?_append_of_beq _ (beq_self_eq_true _)

@[simp] theorem dropSuffix?_bytesSuffix (inner : List Char) :
    (inner ++ bytesSuffix).dropSuffix? bytesSuffix = some inner :=
  List.dropSuffix?_eq_some_iff.mpr ⟨_, rfl, beq_self_eq_true _⟩

theorem dropPrefix?_isSome {s : List Char} (h : isWrapped s) :
    (s.dropPrefix? bytesPrefix).isSome := by
  obtain ⟨inner, rfl⟩ := isWrapped_iff.mp h
  simp

theorem dropSuffix?_isSome {s : List Char} (h : isWrapped s) :
    (((s.dropPrefix? bytesPrefix).get (dropPrefix?_isSome h)).dropSuffix? bytesSuffix).isSome := by
  obtain ⟨inner, rfl⟩ := isWrapped_iff.mp h
  simp

/-- Models the wrapper removal that opens `get_signer`, `parse_store_data` and
`parse_retrieve_data`: when the field starts with `<Bytes>` and ends with
`</Bytes>`, `strip_prefix("<Bytes>").unwrap()` then
`strip_suffix("</Bytes>").unwrap()`. Each `unwrap` is an `Option.get` whose
proof says it cannot panic. -/
def stripBytes (s : List Char) : List Char :=
  if h : isWrapped s then
    ((s.dropPrefix? bytesPrefix).get (dropPrefix?_isSome h)).dropSuffix? bytesSuffix
      |>.get (dropSuffix?_isSome h)
  else s

@[simp] theorem stripBytes_wrapped (inner : List Char) :
    stripBytes (bytesPrefix ++ inner ++ bytesSuffix) = inner := by
  have h : isWrapped (bytesPrefix ++ (inner ++ bytesSuffix)) :=
    isWrapped_iff.mpr ⟨inner, (List.append_assoc _ _ _).symm⟩
  simp [stripBytes, h]

theorem stripBytes_of_not_isWrapped {s : List Char} (h : ¬ isWrapped s) : stripBytes s = s := by
  simp [stripBytes, h]

example : stripBytes "<Bytes>1_2_3</Bytes>".data = "1_2_3".data := by decide

/-! ## Splitting on `_`

`split("_")` keeps every other character in the part it falls in: the first
character of a field that is not `_` starts the first part, and the last one
ends the last part.
-/

theorem splitOn_cons_of_ne {c x : Char} (hc : c ≠ x) (t : List Char) :
    ∃ p ps, (c :: t).splitOn x = (c :: p) :: ps := by
  obtain ⟨p, ps, hp⟩ := List.exists_cons_of_ne_nil (List.splitOnP_ne_nil (· == x) t)
  refine ⟨p, ps, ?_⟩
  simp only [List.splitOn, List.splitOnP_cons, beq_iff_eq, hc, if_false] at hp ⊢
  rw [hp]
  rfl

theorem splitOn_append_singleton_of_ne {c x : Char} (hc : c ≠ x) :
    ∀ t : List Char, ∃ ps p, (t ++ [c]).splitOn x = ps ++ [p ++ [c]]
  | [] => ⟨[], [], by simp [List.splitOn, List.splitOnP_cons, hc]⟩
  | y :: t => by
    obtain ⟨ps, p, h⟩ := splitOn_append_singleton_of_ne hc t
    simp only [List.splitOn] at h ⊢
    rw [List.cons_append, List.splitOnP_cons, h]
    split
    · exact ⟨[] :: ps, p, rfl⟩
    · rcases ps with _ | ⟨q, qs⟩
      · exact ⟨[], y :: p, rfl⟩
      · exact ⟨(y :: q) :: qs, p, rfl⟩

/-! ## Decimal `u32` fields -/

/-- The value of a string of ASCII digits, most significant first. -/
def digitsValue (ds : List Char) : Nat :=
  ds.foldl (fun acc c => acc * 10 + (c.toNat - '0'.toNat)) 0

/-- Models `u32::from_str` once the sign is handled: at least one ASCII digit,
and a value that fits in 32 bits (else `PosOverflow`). Leading zeros are
accepted. -/
def parseDigits (ds : List Char) : Option UInt32 :=
  if ds ≠ [] ∧ ds.all Char.isDigit ∧ digitsValue ds < UInt32.size then
    some (UInt32.ofNat (digitsValue ds))
  else none

/-- Models `str::parse::<u32>` (`u32::from_str_radix(s, 10)`): one optional
leading `+`, then the digits. An empty string or a lone `+` has no digits, and
`u32` takes no `-`. -/
def parseU32 : List Char → Option UInt32
  | '+' :: digits => parseDigits digits
  | digits => parseDigits digits

theorem parseU32_of_isDigit {s : List Char} (h : ∀ c ∈ s, c.isDigit) :
    parseU32 s = parseDigits s := by
  unfold parseU32
  split
  · exact absurd (h '+' (List.mem_cons_self _ _)) (by decide)
  · rfl

/-- A part holding a character that is neither a digit nor `+` is not a `u32`. -/
theorem parseU32_eq_none_of_mem {c : Char} {p : List Char} (hc : c ∈ p) (hd : c.isDigit = false)
    (hp : c ≠ '+') : parseU32 p = none := by
  have hds : ∀ ds : List Char, c ∈ ds → parseDigits ds = none := fun ds hm =>
    if_neg fun ⟨_, hall, _⟩ => by
      simp only [List.all_eq_true] at hall
      simp [hall c hm] at hd
  unfold parseU32
  split
  · exact hds _ ((List.mem_cons.mp hc).resolve_left hp)
  · exact hds _ hc

/-! ## Decimal rendering -/

/-- One step of `Nat.toDigitsCore`, which writes the last digit first. -/
private theorem toDigitsCore_succ (fuel n : Nat) (ds : List Char) :
    Nat.toDigitsCore 10 (fuel + 1) n ds =
      if n / 10 = 0 then Nat.digitChar (n % 10) :: ds
      else Nat.toDigitsCore 10 fuel (n / 10) (Nat.digitChar (n % 10) :: ds) := rfl

private theorem toDigits_def (n : Nat) : Nat.toDigits 10 n = Nat.toDigitsCore 10 (n + 1) n [] :=
  rfl

private theorem toDigitsCore_append (fuel n : Nat) (ds : List Char) (h : n < fuel) :
    Nat.toDigitsCore 10 fuel n ds = Nat.toDigitsCore 10 fuel n [] ++ ds := by
  induction fuel generalizing n ds with
  | zero => omega
  | succ fuel ih =>
    simp only [toDigitsCore_succ]
    split
    · rfl
    · rw [ih _ _ (by omega), ih _ [_] (by omega), List.append_assoc, List.singleton_append]

private theorem toDigitsCore_fuel (n f g : Nat) (hf : n < f) (hg : n < g) :
    Nat.toDigitsCore 10 f n [] = Nat.toDigitsCore 10 g n [] := by
  induction f generalizing n g with
  | zero => omega
  | succ f ih =>
    obtain ⟨g, rfl⟩ : ∃ g', g = g' + 1 := ⟨g - 1, by omega⟩
    simp only [toDigitsCore_succ]
    split
    · rfl
    · rw [toDigitsCore_append f _ _ (by omega), toDigitsCore_append g _ _ (by omega),
        ih _ g (by omega) (by omega)]

/-- The last digit of `n.to_string()` comes off the end. -/
theorem toDigits_eq (n : Nat) : Nat.toDigits 10 n =
    (if n < 10 then [] else Nat.toDigits 10 (n / 10)) ++ [Nat.digitChar (n % 10)] := by
  rw [toDigits_def, toDigitsCore_succ]
  split
  · rw [if_pos (by omega)]; rfl
  · rw [if_neg (by omega), toDigitsCore_append _ _ _ (by omega), toDigits_def,
      toDigitsCore_fuel (n / 10) n (n / 10 + 1) (by omega) (by omega)]

private theorem digitChar_isDigit {d : Nat} (h : d < 10) : (Nat.digitChar d).isDigit := by
  interval_cases d <;> rfl

private theorem digitChar_value {d : Nat} (h : d < 10) :
    (Nat.digitChar d).toNat - '0'.toNat = d := by
  interval_cases d <;> rfl

theorem toDigits_ne_nil (n : Nat) : Nat.toDigits 10 n ≠ [] := by
  rw [toDigits_eq]; simp

theorem isDigit_of_mem_toDigits {n : Nat} : ∀ c ∈ Nat.toDigits 10 n, c.isDigit := by
  induction n using Nat.strong_induction_on with
  | _ n ih =>
    rw [toDigits_eq]
    intro c hc
    simp only [List.mem_append, List.mem_singleton] at hc
    rcases hc with hc | rfl
    · split at hc
      · simp at hc
      · exact ih _ (by omega) c hc
    · exact digitChar_isDigit (Nat.mod_lt _ (by omega))

theorem digitsValue_toDigits (n : Nat) : digitsValue (Nat.toDigits 10 n) = n := by
  induction n using Nat.strong_induction_on with
  | _ n ih =>
    rw [toDigits_eq, digitsValue, List.foldl_append, List.foldl_cons, List.foldl_nil,
      digitChar_value (Nat.mod_lt _ (by omega))]
    split
    · simp; omega
    · rw [← digitsValue, ih _ (by omega)]; omega

/-- `u32::to_string` writes `Nat.toDigits`. -/
@[simp] theorem u32_toString_data (n : UInt32) : (toString n).data = Nat.toDigits 10 n.toNat := rfl

/-- `u32::from_str` reads back what `u32::to_string` writes. -/
theorem parseU32_toString (n : UInt32) : parseU32 (toString n).data = some n := by
  have hd := isDigit_of_mem_toDigits (n := n.toNat)
  show parseU32 (Nat.toDigits 10 n.toNat) = some n
  rw [parseU32_of_isDigit hd]
  simp [parseDigits, toDigits_ne_nil, hd, digitsValue_toDigits, n.toNat_lt_size]
  exact ⟨hd, UInt32.toNat.inj (UInt32.toNat_ofNat_of_lt n.toNat_lt_size)⟩

theorem underscore_not_mem_toDigits (n : Nat) : '_' ∉ Nat.toDigits 10 n :=
  fun h => absurd (isDigit_of_mem_toDigits '_' h) (by decide)

theorem not_isWrapped_of_isDigit {c : Char} (hc : c.isDigit) (rest : List Char) :
    ¬ isWrapped (c :: rest) := by
  intro h
  obtain ⟨inner, hi⟩ := isWrapped_iff.mp h
  have : c = '<' := (List.cons.inj hi).1
  subst this
  exact absurd hc (by decide)

end TernoaEnclave.Text
