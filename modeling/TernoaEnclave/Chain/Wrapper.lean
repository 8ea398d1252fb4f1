import TernoaEnclave.Chain.Authorization

/-! # The `<Bytes>` wrapper and the panics of the field parsers

`get_signer`, `parse_store_data` and `parse_retrieve_data` open alike: a field
that starts with `<Bytes>` and ends with `</Bytes>` loses one of each marker,
the rest is split on `_`, and the parts are read by index. `Chain.Codec` models
both steps as total functions. Here the three parsers are written again as Rust
runs them, each `unwrap()` and `parsed_data[i]` a possible panic, and shown to
agree with the total ones, so they never panic. The wrapper is then seen
through exactly once, and a field that carries only one marker is rejected
whenever the marker falls in a part the parser reads.
-/

namespace TernoaEnclave.Chain

open Text

/-! ## Panics -/

/-- The wrapper removal as the code runs it: under the `starts_with` and
`ends_with` test, `strip_prefix("<Bytes>").unwrap()` then
`strip_suffix("</Bytes>").unwrap()`, `none` being a panic of either. -/
def stripBytesChecked (s : List Char) : Option (List Char) :=
  if isWrapped s then do
    let rest ← s.dropPrefix? bytesPrefix
    rest.dropSuffix? bytesSuffix
  else some s

/-- `unwrap()`, or an index `v[i]`: a missing value panics. -/
def orPanic {α : Type} (o : Option α) : ExceptT VerificationError Option α :=
  ExceptT.lift o

/-- The front shared by the three parsers, with its `unwrap`s. -/
def splitFieldChecked (malformed : VerificationError) (field : String) :
    ExceptT VerificationError Option (List (List Char)) := do
  let s ← orPanic (stripBytesChecked field.data)
  if '_' ∈ s then pure (s.splitOn '_') else throw malformed

/-- `StoreKeysharePacket::get_signer` with its `unwrap`s and indexes. -/
def getSignerChecked (sr : Sr25519) (signerAddress : String) :
    ExceptT VerificationError Option Signer := do
  let parsedData ← splitFieldChecked .malformatedSigner signerAddress
  if parsedData.length < 3 then throw .malformatedSigner
  let account ← orErr .invalidSignerAddress (sr.fromSs58check ⟨← orPanic parsedData[0]?⟩)
  let blockNum ← parseU32Field .invalidAuthToken (← orPanic parsedData[1]?)
  let blockValid ← parseU32Field .invalidAuthToken (← orPanic parsedData[2]?)
  pure ⟨account, ⟨blockNum, blockValid⟩⟩

/-- `StoreKeysharePacket::parse_store_data` with its `unwrap`s and indexes. -/
def parseStoreDataChecked (data : String) :
    ExceptT VerificationError Option StoreKeyshareData := do
  let parsedData ← splitFieldChecked .malformatedData data
  if parsedData.length ≠ 4 then throw .malformatedData
  let nftId ← parseU32Field .invalidNftId (← orPanic parsedData[0]?)
  let keyshare ← if !(← orPanic parsedData[1]?).isEmpty then do pure ⟨← orPanic parsedData[1]?⟩
    else throw .invalidKeyshare
  let blockNumber ← parseU32Field .invalidAuthToken (← orPanic parsedData[2]?)
  let blockValidation ← parseU32Field .invalidAuthToken (← orPanic parsedData[3]?)
  pure ⟨nftId, keyshare, ⟨blockNumber, blockValidation⟩⟩

/-- `RetrieveKeysharePacket::parse_retrieve_data` with its `unwrap`s and indexes. -/
def parseRetrieveDataChecked (data : String) :
    ExceptT VerificationError Option RetrieveKeyshareData := do
  let parsedData ← splitFieldChecked .malformatedData data
  if parsedData.length ≠ 3 then throw .malformatedData
  let nftId ← parseU32Field .invalidNftId (← orPanic parsedData[0]?)
  let blockNumber ← parseU32Field .invalidAuthToken (← orPanic parsedData[1]?)
  let blockValidation ← parseU32Field .invalidAuthToken (← orPanic parsedData[2]?)
  pure ⟨nftId, ⟨blockNumber, blockValidation⟩⟩

section Lift

/-! A `Result` step of the total parsers is a step that cannot panic. -/

variable {α β : Type}

@[simp] theorem orPanic_some (a : α) : orPanic (some a) = pure a := rfl

@[simp] theorem monadLift_bind (x : Except VerificationError α)
    (f : α → Except VerificationError β) :
    (monadLift (x >>= f) : ExceptT VerificationError Option β) =
      monadLift x >>= fun a => monadLift (f a) := by
  cases x <;> rfl

@[simp] theorem monadLift_ok (a : α) :
    (monadLift (Except.ok a : Except VerificationError α) : ExceptT VerificationError Option α) =
      pure a := rfl

@[simp] theorem monadLift_error (e : VerificationError) :
    (monadLift (Except.error e : Except VerificationError α) : ExceptT VerificationError Option α) =
      throw e := rfl

end Lift

/-- Both `unwrap`s of the wrapper removal succeed: a wrapped field holds both
markers in full. -/
theorem stripBytesChecked_eq (s : List Char) : stripBytesChecked s = some (stripBytes s) := by
  unfold stripBytesChecked
  split <;> rename_i h
  · obtain ⟨inner, rfl⟩ := isWrapped_iff.mp h
    rw [stripBytes_wrapped, List.append_assoc]
    simp
  · rw [stripBytes_of_not_isWrapped h]

theorem splitFieldChecked_eq (m : VerificationError) (field : String) :
    splitFieldChecked m field = monadLift (splitField m field) := by
  simp only [splitFieldChecked, stripBytesChecked_eq, splitField, orPanic_some, pure_bind]
  split <;> rfl

/-- Every index of `get_signer` is below the length it checks. -/
theorem getSignerChecked_eq (sr : Sr25519) (s : String) :
    getSignerChecked sr s = monadLift (getSigner sr s) := by
  simp only [getSignerChecked, getSigner, splitFieldChecked_eq, monadLift_bind]
  congr 1; funext parts
  by_cases h : parts.length < 3
  · simp only [h, if_true, dif_pos, ExceptT.bind_throw, throw_eq_error, monadLift_error]
  · simp (disch := omega) only [h, ↓reduceIte, List.getElem?_eq_getElem, orPanic_some, pure_bind,
      ↓reduceDIte, monadLift_bind]
    rfl

theorem parseStoreDataChecked_eq (s : String) :
    parseStoreDataChecked s = monadLift (parseStoreData s) := by
  simp only [parseStoreDataChecked, parseStoreData, splitFieldChecked_eq, monadLift_bind]
  congr 1; funext parts
  by_cases h : parts.length = 4
  · simp (disch := omega) only [h, ne_eq, not_true_eq_false, ↓reduceIte, ↓reduceDIte,
      List.getElem?_eq_getElem, orPanic_some, pure_bind, monadLift_bind]
    cases parts[1].isEmpty <;> rfl
  · simp only [ne_eq, h, not_false_eq_true, ↓reduceIte, ↓reduceDIte, ExceptT.bind_throw,
      throw_eq_error, monadLift_error]

theorem parseRetrieveDataChecked_eq (s : String) :
    parseRetrieveDataChecked s = monadLift (parseRetrieveData s) := by
  simp only [parseRetrieveDataChecked, parseRetrieveData, splitFieldChecked_eq, monadLift_bind]
  congr 1; funext parts
  by_cases h : parts.length = 3
  · simp (disch := omega) only [h, ne_eq, not_true_eq_false, ↓reduceIte, ↓reduceDIte,
      List.getElem?_eq_getElem, orPanic_some, pure_bind, monadLift_bind]
    rfl
  · simp only [ne_eq, h, not_false_eq_true, ↓reduceIte, ↓reduceDIte, ExceptT.bind_throw,
      throw_eq_error, monadLift_error]

/-- No field makes a parser panic: a field with both markers is at least 15
bytes long, so the markers do not overlap and both `unwrap`s succeed, and every
`parsed_data[i]` is below the length checked before it. Each parser returns
what its total model returns. -/
theorem field_parsers_never_panic (sr : Sr25519) (s : String) :
    (bytesPrefix <+: s.data → bytesSuffix <:+ s.data → 15 ≤ s.utf8ByteSize) ∧
      (getSignerChecked sr s).run = some (getSigner sr s) ∧
      (parseStoreDataChecked s).run = some (parseStoreData s) ∧
      (parseRetrieveDataChecked s).run = some (parseRetrieveData s) := by
  refine ⟨fun hp hs => ?_, by rw [getSignerChecked_eq]; rfl, by rw [parseStoreDataChecked_eq]; rfl,
    by rw [parseRetrieveDataChecked_eq]; rfl⟩
  have hw : isWrapped s.data := by
    simp only [isWrapped, Bool.and_eq_true, List.isPrefixOf_iff_prefix, List.isSuffixOf_iff_suffix]
    exact ⟨hp, hs⟩
  exact (length_of_isWrapped hw).trans (length_le_utf8ByteSize s)

/-! ## One wrapper is seen through -/

/-- Wrapping a field that is not wrapped already leaves what the parsers split. -/
theorem splitField_wrapped (m : VerificationError) {X : String}
    (hX : ¬ ∃ Y : String, X = "<Bytes>" ++ Y ++ "</Bytes>") :
    splitField m ("<Bytes>" ++ X ++ "</Bytes>") = splitField m X := by
  have hstrip : stripBytes ("<Bytes>" ++ X ++ "</Bytes>").data = stripBytes X.data :=
    (stripBytes_wrapped X.data).trans (stripBytes_of_not_isWrapped (mt isWrapped_data_iff.mp hX)).symm
  simp only [splitField, hstrip]

/-- Each parser answers a wrapped field as it answers the field inside, Ok value
or error, whenever that field is not itself wrapped. -/
theorem field_parsers_see_through_wrapper (sr : Sr25519) (X : String)
    (hX : ¬ ∃ Y : String, X = "<Bytes>" ++ Y ++ "</Bytes>") :
    getSigner sr ("<Bytes>" ++ X ++ "</Bytes>") = getSigner sr X ∧
      parseStoreData ("<Bytes>" ++ X ++ "</Bytes>") = parseStoreData X ∧
      parseRetrieveData ("<Bytes>" ++ X ++ "</Bytes>") = parseRetrieveData X := by
  simp only [getSigner, parseStoreData, parseRetrieveData, splitField_wrapped _ hX, and_self]

theorem field_parsers_see_through_wrapper_signer :
    (¬ ∃ Y : String, ("5Signer_1000_100" : String) = "<Bytes>" ++ Y ++ "</Bytes>") ∧
      getSigner demoSr ("<Bytes>" ++ "5Signer_1000_100" ++ "</Bytes>") =
          getSigner demoSr "5Signer_1000_100" ∧
        parseStoreData ("<Bytes>" ++ "5Signer_1000_100" ++ "</Bytes>") =
          parseStoreData "5Signer_1000_100" ∧
        parseRetrieveData ("<Bytes>" ++ "5Signer_1000_100" ++ "</Bytes>") =
          parseRetrieveData "5Signer_1000_100" :=
  have hX : ¬ ∃ Y : String, ("5Signer_1000_100" : String) = "<Bytes>" ++ Y ++ "</Bytes>" :=
    mt isWrapped_data_iff.mpr (by decide)
  ⟨hX, field_parsers_see_through_wrapper demoSr _ hX⟩

/-! ## A lone marker -/

theorem exists_error_of_ne_ok {α : Type} {x : Except VerificationError α}
    (h : ∀ a, x ≠ .ok a) : ∃ e, x = .error e := by
  cases x with
  | error e => exact ⟨e, rfl⟩
  | ok a => exact absurd rfl (h a)

section LoneMarker

variable {sr : Sr25519} {s : String} {t : List Char}

/-- A field whose text starts with `<`: its first part is neither a `u32` nor,
when `from_ss58check` rejects every text holding `<`, an address. -/
theorem field_parsers_reject_lt_first
    (hss : ∀ t : List Char, '<' ∈ t → sr.fromSs58check ⟨t⟩ = none)
    (hstrip : stripBytes s.data = '<' :: t) :
    (∃ e, parseStoreData s = .error e) ∧ (∃ e, parseRetrieveData s = .error e) ∧
      ∃ e, getSigner sr s = .error e := by
  obtain ⟨p, ps, hsplit⟩ := splitOn_cons_of_ne (c := '<') (x := '_') (by decide) t
  have hfirst : ∀ {m a rest}, splitField m s = .ok (a :: rest) →
      parseU32 a = none ∧ sr.fromSs58check ⟨a⟩ = none := fun h => by
    rw [splitField_eq_ok, hstrip, hsplit] at h
    rw [← (List.cons.inj h.2).1]
    exact ⟨parseU32_eq_none_of_mem (List.mem_cons_self _ _) rfl (by decide),
      hss _ (List.mem_cons_self _ _)⟩
  refine ⟨exists_error_of_ne_ok fun d hd => ?_, exists_error_of_ne_ok fun d hd => ?_,
    exists_error_of_ne_ok fun x hx => ?_⟩
  · obtain ⟨_, _, _, _, h, ha, -⟩ := parseStoreData_eq_ok.mp hd
    cases (hfirst h).1.symm.trans ha
  · obtain ⟨_, _, _, h, ha, -⟩ := parseRetrieveData_eq_ok.mp hd
    cases (hfirst h).1.symm.trans ha
  · obtain ⟨_, _, _, _, h, ha, -⟩ := getSigner_eq_ok.mp hx
    cases (hfirst h).2.symm.trans ha

/-- A field whose text ends with `>`: its last part is not a `u32`, and both
data parsers read their last part as one; `get_signer` does when it has three. -/
theorem field_parsers_reject_gt_last (hstrip : stripBytes s.data = t ++ ['>']) :
    (∃ e, parseStoreData s = .error e) ∧ (∃ e, parseRetrieveData s = .error e) ∧
      (((stripBytes s.data).splitOn '_').length ≤ 3 → ∃ e, getSigner sr s = .error e) := by
  obtain ⟨ps, p, hsplit⟩ := splitOn_append_singleton_of_ne (x := '_') (c := '>') (by decide) t
  have hlast : ∀ {m parts x}, splitField m s = .ok parts → parts.getLast? = some x →
      parseU32 x = none := fun h hx => by
    rw [← (splitField_eq_ok.mp h).2, hstrip, hsplit, List.getLast?_concat, Option.some_inj] at hx
    exact hx ▸ parseU32_eq_none_of_mem (List.mem_append_right _ (List.mem_singleton_self _)) rfl
      (by decide)
  refine ⟨exists_error_of_ne_ok fun d hd => ?_, exists_error_of_ne_ok fun d hd => ?_,
    fun hlen => exists_error_of_ne_ok fun x hx => ?_⟩
  · obtain ⟨_, _, _, _, h, -, -, -, -, he⟩ := parseStoreData_eq_ok.mp hd
    cases (hlast h rfl).symm.trans he
  · obtain ⟨_, _, _, h, -, -, hc⟩ := parseRetrieveData_eq_ok.mp hd
    cases (hlast h rfl).symm.trans hc
  · obtain ⟨_, _, _, rest, h, -, -, hc⟩ := getSigner_eq_ok.mp hx
    obtain rfl : rest = [] := by
      rw [(splitField_eq_ok.mp h).2] at hlen
      simpa using hlen
    cases (hlast h rfl).symm.trans hc

end LoneMarker

/-- A field that carries only one of the two markers is not wrapped, so its
parts keep the marker: both data parsers reject it, and `get_signer` does when
the marker is `<Bytes>` or the field has at most three parts. -/
theorem lone_marker_rejected (sr : Sr25519)
    (hss : ∀ t : List Char, '<' ∈ t → sr.fromSs58check ⟨t⟩ = none) (s : String)
    (hlone : bytesPrefix <+: s.data ∧ ¬ bytesSuffix <:+ s.data ∨
      bytesSuffix <:+ s.data ∧ ¬ bytesPrefix <+: s.data) :
    (∃ e, parseStoreData s = .error e) ∧ (∃ e, parseRetrieveData s = .error e) ∧
      (bytesPrefix <+: s.data ∨ (s.data.splitOn '_').length ≤ 3 →
        ∃ e, getSigner sr s = .error e) := by
  have hstrip : stripBytes s.data = s.data := stripBytes_of_not_isWrapped fun hw => by
    simp only [isWrapped, Bool.and_eq_true, List.isPrefixOf_iff_prefix,
      List.isSuffixOf_iff_suffix] at hw
    tauto
  rcases hlone with ⟨⟨t, ht⟩, -⟩ | ⟨⟨t, ht⟩, hnp⟩
  · obtain ⟨h1, h2, h3⟩ := field_parsers_reject_lt_first hss (t := "Bytes>".data ++ t)
      (by rw [hstrip, ← ht]; rfl)
    exact ⟨h1, h2, fun _ => h3⟩
  · obtain ⟨h1, h2, h3⟩ := @field_parsers_reject_gt_last sr s (t ++ "</Bytes".data)
      (by rw [hstrip, ← ht, List.append_assoc]; rfl)
    exact ⟨h1, h2, fun h => h3 (by rw [hstrip]; exact h.resolve_left hnp)⟩

/-- The fixture's `from_ss58check` accepts one address, which holds no `<`. -/
theorem demoSr_rejects_lt (t : List Char) (ht : '<' ∈ t) : demoSr.fromSs58check ⟨t⟩ = none :=
  if_neg fun h => absurd (congrArg String.data h ▸ ht : '<' ∈ "5Signer".data) (by decide)

theorem lone_marker_rejected_prefix :
    (∀ t : List Char, '<' ∈ t → demoSr.fromSs58check ⟨t⟩ = none) ∧
      (bytesPrefix <+: ("<Bytes>5Signer_1000_100" : String).data ∧
          ¬ bytesSuffix <:+ ("<Bytes>5Signer_1000_100" : String).data ∨
        bytesSuffix <:+ ("<Bytes>5Signer_1000_100" : String).data ∧
          ¬ bytesPrefix <+: ("<Bytes>5Signer_1000_100" : String).data) ∧
      (∃ e, parseStoreData "<Bytes>5Signer_1000_100" = .error e) ∧
      (∃ e, parseRetrieveData "<Bytes>5Signer_1000_100" = .error e) ∧
      (bytesPrefix <+: ("<Bytes>5Signer_1000_100" : String).data ∨
          (("<Bytes>5Signer_1000_100" : String).data.splitOn '_').length ≤ 3 →
        ∃ e, getSigner demoSr "<Bytes>5Signer_1000_100" = .error e) :=
  have hlone : bytesPrefix <+: ("<Bytes>5Signer_1000_100" : String).data ∧
      ¬ bytesSuffix <:+ ("<Bytes>5Signer_1000_100" : String).data ∨
    bytesSuffix <:+ ("<Bytes>5Signer_1000_100" : String).data ∧
      ¬ bytesPrefix <+: ("<Bytes>5Signer_1000_100" : String).data := by decide
  ⟨demoSr_rejects_lt, hlone, lone_marker_rejected demoSr demoSr_rejects_lt _ hlone⟩

/-- A signer grant whose fourth part, which `get_signer` never reads, carries
`</Bytes>` alone: the lone marker passes through and the grant is accepted,
though `from_ss58check` rejects every text holding `<`. -/
theorem getSigner_accepts_lone_suffix :
    (∀ t : List Char, '<' ∈ t → demoSr.fromSs58check ⟨t⟩ = none) ∧
      bytesSuffix <:+ ("5Signer_1000_100_</Bytes>" : String).data ∧
      ¬ bytesPrefix <+: ("5Signer_1000_100_</Bytes>" : String).data ∧
      getSigner demoSr "5Signer_1000_100_</Bytes>" = .ok ⟨demoKey 1, ⟨1000, 100⟩⟩ :=
  ⟨demoSr_rejects_lt, by decide, by decide, rfl⟩

end TernoaEnclave.Chain
