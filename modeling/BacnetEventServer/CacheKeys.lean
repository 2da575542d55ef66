import BacnetEventServer.Cache
import BacnetEventServer.SubscriptionTable

namespace BacnetEventServer

/-- `"%d:%u"` of an object's type and instance: its member of `objects:index`. -/
def indexMember (type : Int) (inst : Nat) : CStr := decimalText type ++ 58 :: decimalText inst

/-- `make_key(suffix)`: `"%s%s"` of the prefix and the suffix into `key_buffer`. -/
def makeKey (keyPrefix suffix : CStr) : CStr := snprintfText 512 (keyPrefix ++ suffix)

/-- `make_object_key(type, instance)`. -/
def makeObjectKey (keyPrefix : CStr) (type : Int) (inst : Nat) : CStr :=
  snprintfText 512 (keyPrefix ++ lit "object:" ++ indexMember type inst)

/-- `sscanf(member, "%d:%u", &type, &instance) == 2`: the two numbers when both convert, the
`%u` one taken to the 32 bits of `instance`. -/
def sscanfIndexMember (s : CStr) : Option (Int × Nat) := do
  let (type, s) ← scanInt s
  let s ← scanLiteral 58 s
  let (inst, _) ← scanInt s
  pure (type, (inst % 2 ^ 32).toNat)

theorem scanInt_neg_digits {ds rest : CStr} (hne : ds ≠ []) (hds : ∀ b ∈ ds, isDigit b = true)
    (hrest : ∀ c ∈ rest.head?, isDigit c = false) :
    scanInt (45 :: (ds ++ rest)) = some (-(digitsValue ds : Int), rest) := by
  obtain ⟨htake, hdrop⟩ := takeWhile_isDigit hds hrest
  simp only [scanInt, List.dropWhile_cons_of_neg (by decide : ¬ isSpace 45 = true), scanSign,
    htake, hdrop, if_neg hne]
  rfl

theorem scanInt_decimalText (type : Int) {rest : CStr} (hrest : ∀ c ∈ rest.head?, isDigit c = false) :
    scanInt (decimalText type ++ rest) = some (type, rest) := by
  cases type with
  | ofNat n =>
    obtain ⟨hne, hds, hval, -⟩ := decimalText_natCast n
    rw [show Int.ofNat n = (n : Int) from rfl, scanInt_digits hne hds hrest, hval]
  | negSucc m =>
    obtain ⟨hne, hds, hval, -⟩ := decimalText_natCast (m + 1)
    rw [decimalText_negSucc, List.cons_append, scanInt_neg_digits hne hds hrest, hval]
    rfl

/-- `sscanf("%d:%u")` reads a member back as the pair it printed. -/
theorem sscanfIndexMember_indexMember (type : Int) {inst : Nat} (hinst : inst < 2 ^ 32) :
    sscanfIndexMember (indexMember type inst) = some (type, inst) := by
  have hcolon : ∀ c ∈ (58 :: decimalText inst).head?, isDigit c = false := by
    simp [isDigit]
  have hend : ∀ c ∈ ([] : CStr).head?, isDigit c = false := by simp
  have hinst' : scanInt (decimalText inst) = some ((inst : Int), []) := by
    simpa using scanInt_decimalText inst hend
  have hmod : ((inst : Int) % 2 ^ 32).toNat = inst := by
    rw [Int.emod_eq_of_lt (by omega) (by omega)]
    rfl
  simp only [sscanfIndexMember, indexMember, scanInt_decimalText type hcolon, scanLiteral,
    if_true]
  simpa [hinst'] using hmod

/-- The printed index read back member by member is the index the cache model keeps: every
object with a `uint32_t` instance comes back as its pair, in the order `SMEMBERS` lists them. -/
theorem index_members_read_back (index : List ObjectKey) (hindex : ∀ k ∈ index, k.2 < 2 ^ 32) :
    (index.map fun k => indexMember k.1 k.2).filterMap sscanfIndexMember = index := by
  induction index with
  | nil => rfl
  | cons k index ih =>
    rw [List.map_cons, List.filterMap_cons,
      sscanfIndexMember_indexMember k.1 (hindex k (List.mem_cons_self _ _)),
      ih fun k' hk' => hindex k' (List.mem_cons_of_mem _ hk')]

theorem two_members_read_back :
    (∀ k ∈ ([(0, 7), (-1, 4294967295)] : List ObjectKey), k.2 < 2 ^ 32) ∧
      (([(0, 7), (-1, 4294967295)] : List ObjectKey).map fun k => indexMember k.1 k.2).filterMap
        sscanfIndexMember = [(0, 7), (-1, 4294967295)] :=
  ⟨by decide, index_members_read_back _ (by decide)⟩

theorem indexMember_length_le {type : Int} {inst : Nat} (htype : -2 ^ 31 ≤ type ∧ type < 2 ^ 31)
    (hinst : inst < 2 ^ 32) : (indexMember type inst).length ≤ 22 := by
  have hi := (decimalText_natCast inst).2.2.2 10 (by omega) (by omega)
  have ht : (decimalText type).length ≤ 11 := by
    cases type with
    | ofNat n =>
      rw [Int.ofNat_eq_coe] at htype ⊢
      have := (decimalText_natCast n).2.2.2 10 (by omega) (by omega)
      omega
    | negSucc m =>
      rw [Int.negSucc_eq] at htype
      have := (decimalText_natCast (m + 1)).2.2.2 10 (by omega) (by omega)
      rw [decimalText_negSucc, List.length_cons]
      omega
  simp only [indexMember, List.length_append, List.length_cons]
  omega

section ShortPrefix

variable {keyPrefix : CStr} (hkeyLength : keyPrefix.length ≤ 482)
include hkeyLength

theorem makeObjectKey_of_length_le {type : Int} {inst : Nat}
    (htype : -2 ^ 31 ≤ type ∧ type < 2 ^ 31) (hinst : inst < 2 ^ 32) :
    makeObjectKey keyPrefix type inst = keyPrefix ++ lit "object:" ++ indexMember type inst := by
  have hobject : (lit "object:").length = 7 := by decide
  have := indexMember_length_le htype hinst
  exact List.take_of_length_le (by simp only [List.length_append]; omega)

theorem eq_of_makeObjectKey_eq {type type' : Int} {inst inst' : Nat}
    (htype : -2 ^ 31 ≤ type ∧ type < 2 ^ 31) (htype' : -2 ^ 31 ≤ type' ∧ type' < 2 ^ 31)
    (hinst : inst < 2 ^ 32) (hinst' : inst' < 2 ^ 32)
    (h : makeObjectKey keyPrefix type inst = makeObjectKey keyPrefix type' inst') :
    (type, inst) = (type', inst') := by
  rw [makeObjectKey_of_length_le hkeyLength htype hinst,
    makeObjectKey_of_length_le hkeyLength htype' hinst'] at h
  have hmember := congrArg sscanfIndexMember (List.append_cancel_left h)
  rwa [sscanfIndexMember_indexMember type hinst, sscanfIndexMember_indexMember type' hinst',
    Option.some.injEq] at hmember

/-- With a key prefix of at most 482 bytes, `make_object_key` keeps every key whole and gives
each object its own: two objects of `int` types and `uint32_t` instances with one key are the
same object. -/
theorem makeObjectKey_injective {type type' : Int} {inst inst' : Nat}
    (htype : -2 ^ 31 ≤ type ∧ type < 2 ^ 31) (htype' : -2 ^ 31 ≤ type' ∧ type' < 2 ^ 31)
    (hinst : inst < 2 ^ 32) (hinst' : inst' < 2 ^ 32)
    (h : makeObjectKey keyPrefix type inst = makeObjectKey keyPrefix type' inst') :
    type = type' ∧ inst = inst' :=
  Prod.mk.inj (eq_of_makeObjectKey_eq hkeyLength htype htype' hinst hinst' h)

end ShortPrefix

theorem default_prefix_key_of_one_object :
    (lit "bacnet:").length ≤ 482 ∧ (-2 ^ 31 ≤ (0 : Int) ∧ (0 : Int) < 2 ^ 31) ∧ 1 < 2 ^ 32 ∧
      makeObjectKey (lit "bacnet:") 0 1 = makeObjectKey (lit "bacnet:") 0 1 ∧
      ((0 : Int) = 0 ∧ 1 = 1) :=
  ⟨by decide, by decide, by decide, rfl,
    makeObjectKey_injective (show (lit "bacnet:").length ≤ 482 by decide) (by decide) (by decide)
      (by decide) (by decide) rfl⟩

/-- A key prefix of 504 bytes or more leaves `snprintf` no room after `object:`: every object
gets the same key, so that a `SET` of one overwrites the blob of any other. -/
theorem makeObjectKey_of_long_prefix {keyPrefix : CStr} (hkeyLength : 504 ≤ keyPrefix.length)
    (type : Int) (inst : Nat) :
    makeObjectKey keyPrefix type inst = (keyPrefix ++ lit "object:").take 511 := by
  have hobject : (lit "object:").length = 7 := by decide
  exact List.take_append_of_le_length (by simp only [List.length_append]; omega)

theorem long_prefix_shares_key :
    504 ≤ (List.replicate 504 (97 : UInt8)).length ∧
      makeObjectKey (List.replicate 504 97) 0 1 = (List.replicate 504 97 ++ lit "object:").take 511 :=
  ⟨(List.length_replicate 504 97).ge, makeObjectKey_of_long_prefix (List.length_replicate 504 97).ge 0 1⟩

end BacnetEventServer
