import Mathlib.Data.List.Induction
import AidnSpec.Base.MerkleTree
import AidnSpec.Base.PyValue
import AidnSpec.Base.Sha256

/-!
# CometBFT transaction proofs

The verifier is `consensus/cometbft_merkle.py:12–159`; the two tree builders are
`consensus/cometbft_crypto.py:309–317` and `consensus/cometbft_header.py:126–140`. The builders
split a list at the largest power of two strictly below its length. The verifier's
`_largest_power_of_two_less_than` shifts by `bit_length() - 2`, which is that power exactly when the
length is a power of two itself.
-/

namespace AidnSpec.Consensus

open Base HashTree List Nat

def hashLength : Nat := 32

def maxAunts : Nat := 100

def leafHash (value : Bytes) : Bytes := sha256 (0x00 :: value)

def innerHash (left right : Bytes) : Bytes := sha256 (0x01 :: (left ++ right))

/-! ## Tree builders -/

/-- The split of both `_merkle_hash`: `1 << (bit_length - 1)`, halved when it is the
whole length. -/
def merkleSplit (n : Nat) : Nat :=
  if 1 <<< (n.size - 1) = n then (1 <<< (n.size - 1)) >>> 1 else 1 <<< (n.size - 1)

variable {n total : Nat} {bs : Bytes} {blockHeight : Int} {blockId : String} {txs : List Bytes}

/-- The split is the largest power of two strictly below the length. -/
theorem merkleSplit_eq (hn : 2 ≤ n) : merkleSplit n = 2 ^ ((n - 1).size - 1) := by
  obtain ⟨k, hk⟩ : ∃ k, n.size = k + 2 :=
    ⟨n.size - 2, by have : 1 < n.size := lt_size.mpr (by omega); omega⟩
  have hlo : 2 ^ (k + 1) ≤ n := lt_size.mp (by omega)
  have hhi : n < 2 ^ (k + 2) := size_le.mp (by omega)
  have hp : 0 < 2 ^ k := Nat.two_pow_pos k
  have h1 : 2 ^ (k + 1) = 2 * 2 ^ k := by rw [pow_succ]; omega
  simp only [merkleSplit, hk, shiftLeft_eq, one_mul, shiftRight_eq_div_pow,
    show k + 2 - 1 = k + 1 from rfl, pow_one]
  split
  · next he =>
    have hs : (n - 1).size = k + 1 := by
      apply Nat.le_antisymm
      · exact Nat.size_le.mpr (by omega)
      · exact lt_size.mpr (by omega)
    rw [hs, h1]
    simp
  · next he =>
    have hs : (n - 1).size = k + 2 := by
      apply Nat.le_antisymm
      · exact Nat.size_le.mpr (by omega)
      · exact lt_size.mpr (by omega)
    rw [hs]
    rfl

private theorem merkleSplit_bounds (hn : 2 ≤ n) : 0 < merkleSplit n ∧ merkleSplit n < n := by
  rw [merkleSplit_eq hn]
  have hs : 0 < (n - 1).size := size_pos.mpr (by omega)
  have hle : 2 ^ ((n - 1).size - 1) ≤ n - 1 := lt_size.mp (by omega)
  exact ⟨Nat.two_pow_pos _, by omega⟩

/-- The RFC 6962 style tree of both builders. -/
def merkleTree : HashTree Bytes Bytes where
  empty := sha256 []
  leaf := leafHash
  inner := innerHash
  split := merkleSplit
  split_pos _ h := (merkleSplit_bounds h).1
  split_lt _ h := (merkleSplit_bounds h).2

@[simp] theorem merkleTree_split (n : Nat) : merkleTree.split n = merkleSplit n := rfl

def merkleHash (items : List Bytes) : Bytes :=
  match items with
  | [] => sha256 []
  | [item] => sha256 (0x00 :: item)
  | x :: y :: rest =>
    let split := merkleSplit (rest.length + 2)
    sha256 (0x01 :: (merkleHash ((x :: y :: rest).take split) ++
      merkleHash ((x :: y :: rest).drop split)))
termination_by items.length
decreasing_by
  · have h := merkleSplit_bounds (n := rest.length + 2) (by omega)
    simp only [length_take, length_cons]; omega
  · have h := merkleSplit_bounds (n := rest.length + 2) (by omega)
    simp only [length_drop, length_cons]; omega

/-- `cometbft_header._merkle_hash`; an empty list makes its shift count negative. -/
def headerMerkleHash (values : List Bytes) : Except PyError Bytes :=
  match values with
  | [] => raiseValue "negative shift count"
  | [value] => .ok (leafHash value)
  | x :: y :: rest =>
    let split := merkleSplit (rest.length + 2)
    do
      let left ← headerMerkleHash ((x :: y :: rest).take split)
      let right ← headerMerkleHash ((x :: y :: rest).drop split)
      return innerHash left right
termination_by values.length
decreasing_by
  · have h := merkleSplit_bounds (n := rest.length + 2) (by omega)
    simp only [length_take, length_cons]; omega
  · have h := merkleSplit_bounds (n := rest.length + 2) (by omega)
    simp only [length_drop, length_cons]; omega

/-- The first builder computes the root of the tree. -/
theorem merkleHash_eq_root (items : List Bytes) : merkleHash items = merkleTree.root items := by
  induction items using merkleHash.induct with
  | case1 => rw [merkleHash, root]; rfl
  | case2 item => rw [merkleHash, root_singleton]; rfl
  | case3 x y rest split ihl ihr => rw [merkleHash, root, ihl, ihr]; rfl

/-- The second builder computes the same root, for every list it accepts. -/
theorem headerMerkleHash_eq {values : List Bytes} (hne : values ≠ []) :
    headerMerkleHash values = .ok (merkleHash values) := by
  induction values using headerMerkleHash.induct with
  | case1 => exact absurd rfl hne
  | case2 value => rw [headerMerkleHash, merkleHash]; rfl
  | case3 x y rest split ihl ihr =>
    have hb := merkleSplit_bounds (n := rest.length + 2) (by omega)
    have hl : (x :: y :: rest).take split ≠ [] := by
      intro h
      have := congrArg List.length h
      simp only [length_take, length_cons, length_nil] at this
      omega
    have hr : (x :: y :: rest).drop split ≠ [] := by
      intro h
      have := congrArg List.length h
      simp only [length_drop, length_cons, length_nil] at this
      omega
    rw [headerMerkleHash, merkleHash, ihl hl, ihr hr]
    rfl

/-! ## Verifier -/

/-- `_decode_base64`. -/
def decodeBase64 : PyValue → Except PyError Bytes
  | .str value =>
    match b64Decode value with
    | some decoded => .ok decoded
    | none => raiseValue "Invalid base64-encoded string"
  | _ => raiseValue "CometBFT proof data is invalid"

def decodeHash : PyValue → Except PyError Bytes
  | .str value =>
    let normalized := removePre "0x".toList value.toList
    if normalized.length ≠ hashLength * 2 then raiseValue "CometBFT hash is invalid"
    else
      match fromHexChars normalized with
      | none => raiseValue "CometBFT hash is invalid"
      | some decoded =>
        if decoded.length ≠ hashLength then raiseValue "CometBFT hash is invalid"
        else .ok decoded
  | _ => raiseValue "CometBFT hash is invalid"

def decodeProofHash : PyValue → Except PyError Bytes
  | .str value =>
    match b64Decode value with
    | none => raiseValue "CometBFT proof hash is invalid"
    | some decoded =>
      if decoded.length ≠ hashLength then raiseValue "CometBFT proof hash is invalid"
      else .ok decoded
  | _ => raiseValue "CometBFT proof hash is invalid"

/-- `_nonnegative_int`; only `TypeError` and `ValueError` of `int` are translated. -/
def nonnegativeInt : PyValue → Except PyError Nat
  | .bool _ => raiseValue "CometBFT proof integer is invalid"
  | value =>
    match value.toInt with
    | .ok result =>
      if result < 0 then raiseValue "CometBFT proof integer is invalid" else .ok result.toNat
    | .error ⟨.type, _⟩ | .error ⟨.value, _⟩ => raiseValue "CometBFT proof integer is invalid"
    | .error error => .error error

def positiveInt (value : PyValue) : Except PyError Nat := do
  let result ← nonnegativeInt value
  if result < 1 then raiseValue "CometBFT proof total is invalid" else return result

def largestPowerOfTwoLessThan (value : Nat) : Except PyError Nat :=
  if value < 2 then raiseValue "CometBFT proof total is invalid"
  else .ok (1 <<< (value.size - 2))

/-- `_compute_root`; the last aunt belongs to the root. -/
def computeRoot (index total : Nat) (leaf : Bytes) (aunts : List Bytes) : Except PyError Bytes :=
  if total = 1 then
    if index ≠ 0 ∨ aunts ≠ [] then raiseValue "CometBFT proof shape is invalid" else .ok leaf
  else
    match _h : aunts.getLast? with
    | none => raiseValue "CometBFT proof is incomplete"
    | some aunt => do
      let leftTotal ← largestPowerOfTwoLessThan total
      if index < leftTotal then
        return innerHash (← computeRoot index leftTotal leaf aunts.dropLast) aunt
      else
        return innerHash aunt
          (← computeRoot (index - leftTotal) (total - leftTotal) leaf aunts.dropLast)
termination_by aunts.length
decreasing_by
  all_goals
    have hne : aunts ≠ [] := by rintro rfl; cases _h
    have := length_pos_iff.mpr hne
    rw [length_dropLast]
    omega

private theorem computeRoot_nil (index total : Nat) (leaf : Bytes) :
    computeRoot index total leaf [] =
      if total = 1 then
        if index ≠ 0 then raiseValue "CometBFT proof shape is invalid" else .ok leaf
      else raiseValue "CometBFT proof is incomplete" := by
  rw [computeRoot]
  simp

private theorem computeRoot_concat (index total : Nat) (leaf : Bytes) (aunts : List Bytes)
    (aunt : Bytes) :
    computeRoot index total leaf (aunts ++ [aunt]) =
      if total = 1 then raiseValue "CometBFT proof shape is invalid"
      else do
        let leftTotal ← largestPowerOfTwoLessThan total
        if index < leftTotal then
          return innerHash (← computeRoot index leftTotal leaf aunts) aunt
        else
          return innerHash aunt
            (← computeRoot (index - leftTotal) (total - leftTotal) leaf aunts) := by
  rw [computeRoot]
  by_cases h1 : total = 1
  · simp [h1]
  · rw [if_neg h1, if_neg h1]
    split
    · next h => simp at h
    · next last h =>
      obtain rfl : aunt = last := by simpa using h
      rw [dropLast_concat]

def verifierSplit (n : Nat) : Nat := 2 ^ (n.size - 2)

private theorem largestPowerOfTwoLessThan_eq (h : 2 ≤ total) :
    largestPowerOfTwoLessThan total = .ok (verifierSplit total) := by
  rw [largestPowerOfTwoLessThan, if_neg (by omega), shiftLeft_eq, one_mul, verifierSplit]

private theorem verifierSplit_lt (h : 2 ≤ n) : verifierSplit n < n := by
  have hs : 1 < n.size := lt_size.mpr (by omega)
  have hlo : 2 ^ (n.size - 1) ≤ n := lt_size.mp (by omega)
  have hp : 2 ^ (n.size - 1) = 2 * 2 ^ (n.size - 2) := by
    rw [show n.size - 1 = n.size - 2 + 1 by omega, pow_succ]; omega
  have : 0 < 2 ^ (n.size - 2) := Nat.two_pow_pos _
  rw [verifierSplit]
  omega

/-- `_compute_root` recombines the path with the verifier's own split. -/
theorem computeRoot_eq_ok_iff (ht : 1 ≤ total) (index : Nat) (leaf : Bytes) (aunts : List Bytes)
    (r : Bytes) :
    computeRoot index total leaf aunts = .ok r ↔
      recombine innerHash verifierSplit leaf total index aunts.reverse = some r := by
  induction aunts using List.reverseRecOn generalizing index total r with
  | nil =>
    rw [computeRoot_nil, reverse_nil, recombine]
    by_cases h1 : total = 1 <;> by_cases h0 : index = 0 <;> simp [h1, h0, raiseValue]
  | append_singleton aunts aunt ih =>
    rw [computeRoot_concat, reverse_append, reverse_singleton, singleton_append,
      recombine]
    by_cases h1 : total = 1
    · simp [h1, raiseValue]
    · have h2 : 2 ≤ total := by omega
      have hlt := verifierSplit_lt h2
      have hpos : 1 ≤ verifierSplit total := Nat.two_pow_pos _
      rw [if_neg h1, if_neg h1, largestPowerOfTwoLessThan_eq h2]
      simp only [bind, Except.bind]
      split
      · next hi =>
        have := ih hpos index
        rw [Option.map_eq_some_iff]
        simp only [← this]
        cases computeRoot index (verifierSplit total) leaf aunts <;> simp [pure, Except.pure]
      · next hi =>
        have hrest : 1 ≤ total - verifierSplit total := by omega
        have := ih hrest (index - verifierSplit total)
        rw [Option.map_eq_some_iff]
        simp only [← this]
        cases computeRoot (index - verifierSplit total) (total - verifierSplit total) leaf aunts <;>
          simp [pure, Except.pure]

/-- A path accepted for the first leaf has one aunt less than the total has bits. -/
theorem length_of_recombine_zero (ht : 1 ≤ total) {leaf r : Bytes} {path : List Bytes}
    (h : recombine innerHash verifierSplit leaf total 0 path = some r) :
    path.length = total.size - 1 := by
  induction path generalizing total r with
  | nil =>
    obtain ⟨⟨rfl, -⟩, -⟩ : (total = 1 ∧ True) ∧ leaf = r := by simpa [recombine] using h
    rfl
  | cons aunt path ih =>
    have hpos : 1 ≤ verifierSplit total := Nat.two_pow_pos _
    rw [recombine] at h
    split at h
    · cases h
    · next h1 =>
      rw [if_pos (by omega), Option.map_eq_some_iff] at h
      obtain ⟨left, hleft, -⟩ := h
      have hs : 1 < total.size := lt_size.mpr (by omega)
      have := ih hpos hleft
      rw [verifierSplit, size_pow] at this
      rw [length_cons, this]
      omega

/-- `verify_cometbft_transaction_inclusion`, inside its `try`. -/
def verifyInclusionBody (transactionResult : List (String × PyValue)) (transactionHash : String)
    (blockHeight : Int) (blockId dataHash : String) : Except PyError Bool :=
  if blockHeight < 1 ∨ isBlank blockId then .ok false
  else do
    let normalizedTransactionHash ← decodeHash (.str transactionHash)
    let committedDataHash ← decodeHash (.str dataHash)
    let transactionBytes ← decodeBase64 (PyValue.get transactionResult "tx")
    if sha256 transactionBytes ≠ normalizedTransactionHash then return false
    else
      match PyValue.get transactionResult "proof" with
      | .dict txProof => do
        let data ← decodeBase64 (PyValue.get txProof "data")
        if data ≠ transactionBytes then return false
        else
          let rootHash ← decodeHash (PyValue.get txProof "root_hash")
          if rootHash ≠ committedDataHash then return false
          else
            match PyValue.get txProof "proof" with
            | .dict proof => do
              let total ← positiveInt (PyValue.get proof "total")
              let index ← nonnegativeInt (PyValue.get proof "index")
              if index ≥ total then return false
              else
                let leaf ← decodeProofHash (PyValue.get proof "leaf_hash")
                if leaf ≠ leafHash normalizedTransactionHash then return false
                else
                  match PyValue.get proof "aunts" with
                  | .list auntsValue =>
                    if auntsValue.length > maxAunts then return false
                    else
                      let aunts ← auntsValue.mapM decodeProofHash
                      let computed ← computeRoot index total leaf aunts
                      return computed == committedDataHash
                  | _ => return false
            | _ => return false
      | _ => return false

/-- `verify_cometbft_transaction_inclusion`: a `TypeError` or a `ValueError` is a refusal. -/
def verifyCometbftTransactionInclusion (transactionResult : List (String × PyValue))
    (transactionHash : String) (blockHeight : Int) (blockId dataHash : String) :
    Except PyError Bool :=
  match verifyInclusionBody transactionResult transactionHash blockHeight blockId dataHash with
  | .error ⟨.type, _⟩ | .error ⟨.value, _⟩ => .ok false
  | result => result

/-! ## Completeness -/

private theorem size_two_pow_sub_one (k : Nat) : (2 ^ k - 1).size = k := by
  have hp : 0 < 2 ^ k := Nat.two_pow_pos k
  apply Nat.le_antisymm
  · exact Nat.size_le.mpr (by omega)
  · cases k with
    | zero => exact zero_le _
    | succ j =>
      have : 2 ^ (j + 1) = 2 * 2 ^ j := by rw [pow_succ]; omega
      have : 0 < 2 ^ j := Nat.two_pow_pos j
      exact lt_size.mpr (by omega)

/-- The path of the first leaf has as many aunts as `n - 1` has bits. -/
theorem length_auditPath_zero {xs : List Bytes} (hne : xs ≠ []) :
    (merkleTree.auditPath xs 0).length = (xs.length - 1).size := by
  induction hn : xs.length using Nat.strongRecOn generalizing xs with
  | ind n ih =>
    subst hn
    have hpos := length_pos_iff.mpr hne
    by_cases h2 : 2 ≤ xs.length
    · have hb := merkleSplit_bounds h2
      have hs : 0 < (xs.length - 1).size := size_pos.mpr (by omega)
      have hl : (xs.take (merkleSplit xs.length)).length = merkleSplit xs.length := by
        rw [length_take]; omega
      rw [merkleTree.auditPath_left h2 hb.1, length_append, length_singleton,
        merkleTree_split, ih _ hb.2 (length_pos_iff.mp (by rw [hl]; exact hb.1)) hl,
        merkleSplit_eq h2, size_two_pow_sub_one]
      omega
    · obtain ⟨x, rfl⟩ := length_eq_one_iff.mp (show xs.length = 1 by omega)
      rw [merkleTree.auditPath_singleton]
      rfl

/-- No path is longer than the path of the first leaf. -/
theorem length_auditPath_le (xs : List Bytes) (i : Nat) (hi : i < xs.length) :
    (merkleTree.auditPath xs i).length ≤ (xs.length - 1).size := by
  induction hn : xs.length using Nat.strongRecOn generalizing xs i with
  | ind n ih =>
    subst hn
    by_cases h2 : 2 ≤ xs.length
    · have hb := merkleSplit_bounds h2
      have hs : 0 < (xs.length - 1).size := size_pos.mpr (by omega)
      have he := merkleSplit_eq h2
      by_cases hc : i < merkleSplit xs.length
      · have := ih _ hb.2 (xs.take (merkleSplit xs.length)) i (by rw [length_take]; omega)
          (by rw [length_take]; omega)
        rw [he, size_two_pow_sub_one, ← he] at this
        rw [merkleTree.auditPath_left h2 hc, length_append, length_singleton]
        exact Nat.le_trans (Nat.succ_le_succ this) (by omega)
      · have := ih _ (by omega) (xs.drop (merkleSplit xs.length)) (i - merkleSplit xs.length)
          (by rw [length_drop]; omega) length_drop
        have hlt : xs.length - 1 < 2 ^ (xs.length - 1).size := lt_size_self _
        have hp : 2 ^ (xs.length - 1).size = 2 * 2 ^ ((xs.length - 1).size - 1) := by
          conv_lhs => rw [show (xs.length - 1).size = (xs.length - 1).size - 1 + 1 by omega]
          rw [pow_succ]; omega
        have hr : (xs.length - merkleSplit xs.length - 1).size ≤ (xs.length - 1).size - 1 :=
          size_le.mpr (by omega)
        rw [merkleTree.auditPath_right h2 (Nat.not_lt.mp hc), length_append,
          length_singleton]
        exact Nat.le_trans (Nat.succ_le_succ this) (by omega)
    · obtain ⟨x, rfl⟩ := length_eq_one_iff.mp (show xs.length = 1 by omega)
      rw [merkleTree.auditPath_singleton]
      exact zero_le _

/-- Every root of the tree is a digest. -/
theorem length_merkleTree_root (xs : List Bytes) : (merkleTree.root xs).length = 32 := by
  match xs with
  | [] => rw [root]; exact length_sha256 _
  | [x] => rw [root]; exact length_sha256 _
  | x :: y :: rest => rw [root]; exact length_sha256 _

/-- A hash text is read back. -/
theorem decodeHash_hexEncode (upper : Bool) (h : bs.length = 32) :
    decodeHash (.str (hexEncode upper bs)) = .ok bs := by
  have hx : ¬ "0x".toList.isPrefixOf (hexChars upper bs) := by
    intro hp
    have hm : 'x' ∈ hexChars upper bs :=
      (List.isPrefixOf_iff_prefix.mp hp).subset (by decide)
    obtain ⟨v, hv, hc⟩ := mem_hexChars hm
    have key : ∀ u : Bool, ∀ w : Fin 16, 'x' ≠ hexDigit u w := by decide
    exact key upper ⟨v, hv⟩ hc
  simp only [decodeHash, hexEncode, String.toList_ofList, removePre, if_neg hx, length_hexChars,
    fromHexChars_hexChars, h, hashLength]
  simp

/-- A base64 proof hash is read back. -/
theorem decodeProofHash_b64Encode (h : bs.length = 32) :
    decodeProofHash (.str (b64Encode bs)) = .ok bs := by
  simp [decodeProofHash, b64Decode_b64Encode, h, hashLength]

private theorem mapM_decodeProofHash {aunts : List Bytes} (h : ∀ a ∈ aunts, a.length = 32) :
    (aunts.map fun a => PyValue.str (b64Encode a)).mapM decodeProofHash = .ok aunts := by
  induction aunts with
  | nil => rfl
  | cons a aunts ih =>
    rw [map_cons, mapM_cons, decodeProofHash_b64Encode (h a (by simp)),
      ih (fun b hb => h b (by simp [hb]))]
    rfl

/-- A proof integer, as a JSON number or as CometBFT's decimal text. -/
def proofInt (asText : Bool) (n : Nat) : PyValue := if asText then .str n.repr else .int n

/-- The `/tx?prove=true` answer for transaction `i` of a block: its bytes, the committed
root, and the audit path of its hash from the leaf to the root. -/
def transactionResult (upper asText : Bool) (txs : List Bytes) (i : Nat) (tx : Bytes) :
    List (String × PyValue) :=
  let hashes := txs.map sha256
  [("tx", .str (b64Encode tx)), ("proof", .dict
      [("root_hash", .str (hexEncode upper (merkleHash hashes))), ("data", .str (b64Encode tx)),
        ("proof", .dict
          [("total", proofInt asText txs.length), ("index", proofInt asText i),
            ("leaf_hash", .str (b64Encode (leafHash (sha256 tx)))),
            ("aunts", .list ((merkleTree.auditPath hashes i).map
              fun a => .str (b64Encode a)))])])]

/-- The verifier accepts the audit path of transaction `i` against the root of the block. -/
def AcceptsLeaf (upper asText : Bool) (blockHeight : Int) (blockId : String) (txs : List Bytes)
    (i : Fin txs.length) : Prop :=
  verifyCometbftTransactionInclusion (transactionResult upper asText txs i (txs.get i))
    (hexEncode upper (sha256 (txs.get i))) blockHeight blockId
    (hexEncode upper (merkleHash (txs.map sha256))) = .ok true

private theorem nonnegativeInt_proofInt (asText : Bool) (hn : n < 10 ^ 4300) :
    nonnegativeInt (proofInt asText n) = .ok n := by
  have h0 : ¬ (n : Int) < 0 := by omega
  cases asText with
  | false => simp [proofInt, nonnegativeInt, PyValue.toInt, h0]
  | true => simp [proofInt, nonnegativeInt, PyValue.toInt, intOfText_repr n hn, h0]

/-- On such an answer only the integers, the number of aunts and the recombined root are
left to decide. -/
theorem verifyInclusionBody_transactionResult (upper asText : Bool) (hh : 1 ≤ blockHeight)
    (hb : isBlank blockId = false) (txs : List Bytes) (i : Fin txs.length) :
    verifyInclusionBody (transactionResult upper asText txs i (txs.get i))
        (hexEncode upper (sha256 (txs.get i))) blockHeight blockId
        (hexEncode upper (merkleHash (txs.map sha256))) = do
      let total ← positiveInt (proofInt asText txs.length)
      let index ← nonnegativeInt (proofInt asText i)
      if index ≥ total then return false
      else if (merkleTree.auditPath (txs.map sha256) i).length > maxAunts then return false
      else
        let computed ← computeRoot index total (leafHash (sha256 (txs.get i)))
          (merkleTree.auditPath (txs.map sha256) i)
        return computed == merkleHash (txs.map sha256) := by
  have hroot : (merkleHash (txs.map sha256)).length = 32 := by
    rw [merkleHash_eq_root]; exact length_merkleTree_root _
  have haunts : ∀ a ∈ merkleTree.auditPath (txs.map sha256) i, a.length = 32 := by
    intro a ha
    obtain ⟨ys, rfl⟩ := merkleTree.exists_root_of_mem_auditPath ha
    exact length_merkleTree_root ys
  have hguard : ¬ (blockHeight < 1 ∨ isBlank blockId = true) := by
    rw [hb]; simp; omega
  rw [verifyInclusionBody, if_neg hguard]
  simp only [transactionResult, PyValue.get, lookup_cons, String.reduceBEq, Option.getD_some,
    decodeBase64, b64Decode_b64Encode, decodeHash_hexEncode upper (length_sha256 _),
    decodeHash_hexEncode upper hroot, decodeProofHash_b64Encode (length_sha256 _),
    mapM_decodeProofHash haunts, bind, Except.bind, ne_eq, not_true_eq_false, if_false, leafHash,
    length_map]

private theorem positiveInt_proofInt (asText : Bool) (h1 : 1 ≤ n) (hn : n < 10 ^ 4300) :
    positiveInt (proofInt asText n) = .ok n := by
  rw [positiveInt, nonnegativeInt_proofInt asText hn]
  simp only [bind, Except.bind]
  rw [if_neg (by omega)]
  rfl

private theorem two_pow_hundred_lt : 2 ^ 100 < 10 ^ 4300 := by
  calc 2 ^ 100 < 10 ^ 100 := Nat.pow_lt_pow_left (by decide) (by decide)
    _ ≤ 10 ^ 4300 := Nat.pow_le_pow_right (by decide) (by decide)

/-- A path of at most `maxAunts` aunts is decided by `_compute_root` alone. -/
theorem acceptsLeaf_iff (upper asText : Bool) (hh : 1 ≤ blockHeight)
    (hb : isBlank blockId = false) (hn : txs.length ≤ 2 ^ 100) (i : Fin txs.length) :
    AcceptsLeaf upper asText blockHeight blockId txs i ↔
      (merkleTree.auditPath (txs.map sha256) i).length ≤ maxAunts ∧
        computeRoot i txs.length (leafHash (sha256 (txs.get i)))
          (merkleTree.auditPath (txs.map sha256) i) = .ok (merkleHash (txs.map sha256)) := by
  have hi := i.isLt
  have hlt : txs.length < 10 ^ 4300 := Nat.lt_of_le_of_lt hn two_pow_hundred_lt
  have hbody := verifyInclusionBody_transactionResult upper asText hh hb txs i
  rw [positiveInt_proofInt asText (by omega) hlt,
    nonnegativeInt_proofInt asText (Nat.lt_trans hi hlt)] at hbody
  simp only [bind, Except.bind] at hbody
  rw [if_neg (Nat.not_le.mpr hi)] at hbody
  rw [AcceptsLeaf, verifyCometbftTransactionInclusion, hbody]
  split_ifs with hcap
  · simp [pure, Except.pure, Nat.not_le.mpr hcap]
  · rw [Nat.not_lt] at hcap
    generalize computeRoot i txs.length (leafHash (sha256 (txs.get i)))
      (merkleTree.auditPath (txs.map sha256) i) = computed
    cases computed with
    | ok computed => simp [pure, Except.pure, hcap]
    | error error => rcases error with ⟨kind, message⟩; cases kind <;> simp [hcap]

private theorem length_auditPath_le_of_accepts {upper asText : Bool} (hh : 1 ≤ blockHeight)
    (hb : isBlank blockId = false) {i : Fin txs.length}
    (h : AcceptsLeaf upper asText blockHeight blockId txs i) :
    (merkleTree.auditPath (txs.map sha256) i).length ≤ maxAunts := by
  have hok : verifyInclusionBody (transactionResult upper asText txs i (txs.get i))
      (hexEncode upper (sha256 (txs.get i))) blockHeight blockId
      (hexEncode upper (merkleHash (txs.map sha256))) = .ok true := by
    rw [AcceptsLeaf, verifyCometbftTransactionInclusion] at h
    split at h
    · cases h
    · cases h
    · exact h
  rw [verifyInclusionBody_transactionResult upper asText hh hb txs i, bind_eq_ok] at hok
  obtain ⟨total, -, hok⟩ := hok
  obtain ⟨index, -, hok⟩ := bind_eq_ok.mp hok
  by_contra hcap
  split_ifs at hok with h1 h2
  · cases hok
  · cases hok
  · exact h2 (Nat.not_le.mp hcap)

/-- A power of two is split in the middle by builders and verifier alike. -/
theorem splits_agree_of_two_pow (n : Nat) (hn : 2 ≤ n) (hp : ∃ k, n = 2 ^ k) :
    verifierSplit n = merkleTree.split n ∧ (∃ k, merkleTree.split n = 2 ^ k) ∧
      ∃ k, n - merkleTree.split n = 2 ^ k := by
  obtain ⟨k, rfl⟩ := hp
  have hk : k ≠ 0 := by rintro rfl; omega
  obtain ⟨j, rfl⟩ := exists_eq_succ_of_ne_zero hk
  have hm : merkleTree.split (2 ^ (j + 1)) = 2 ^ j := by
    rw [merkleTree_split, merkleSplit_eq hn, size_two_pow_sub_one]
    rfl
  have hd : 2 ^ (j + 1) = 2 * 2 ^ j := by rw [pow_succ]; omega
  refine ⟨?_, ⟨j, hm⟩, j, ?_⟩
  · rw [hm, verifierSplit, size_pow]
    rfl
  · rw [succ_eq_add_one, hm]
    omega

/-- Both builders return one root over the transaction hashes, and the verifier accepts
the audit path of every transaction of a block exactly when their number is a power of
two no larger than `2 ^ maxAunts`. -/
theorem every_leaf_accepted_iff (upper asText : Bool) (blockHeight : Int) (hh : 1 ≤ blockHeight)
    (blockId : String) (hb : isBlank blockId = false) (txs : List Bytes) (hne : txs ≠ []) :
    headerMerkleHash (txs.map sha256) = .ok (merkleHash (txs.map sha256)) ∧
      ((∀ i, AcceptsLeaf upper asText blockHeight blockId txs i) ↔
        ∃ k ≤ maxAunts, txs.length = 2 ^ k) := by
  refine ⟨headerMerkleHash_eq (by simpa using hne), ?_, ?_⟩
  · -- the path of the first leaf already has the wrong length otherwise
    intro h
    have hpos := List.length_pos_iff.mpr hne
    have hmap : txs.map sha256 ≠ [] := by simpa using hne
    have hlen := length_auditPath_zero hmap
    rw [List.length_map] at hlen
    have hcap := length_auditPath_le_of_accepts hh hb (h ⟨0, hpos⟩)
    simp only [hlen, maxAunts] at hcap
    have hle : txs.length ≤ 2 ^ 100 := by
      have := Nat.size_le.mp hcap
      omega
    have hroot := ((acceptsLeaf_iff upper asText hh hb hle ⟨0, hpos⟩).mp (h ⟨0, hpos⟩)).2
    rw [computeRoot_eq_ok_iff hpos] at hroot
    have hsize := length_of_recombine_zero hpos hroot
    rw [List.length_reverse, hlen] at hsize
    refine ⟨txs.length.size - 1, by rw [← hsize]; exact hcap, ?_⟩
    have hlo : 2 ^ (txs.length.size - 1) ≤ txs.length :=
      Nat.lt_size.mp (by have := Nat.size_pos.mpr hpos; omega)
    have hhi : txs.length - 1 < 2 ^ (txs.length.size - 1) := by
      rw [← hsize]
      exact Nat.lt_size_self _
    omega
  · rintro ⟨k, hk, hn⟩ i
    have hle : txs.length ≤ 2 ^ 100 := by
      rw [hn]
      exact Nat.pow_le_pow_right (by decide) hk
    have hpos := List.length_pos_iff.mpr hne
    rw [acceptsLeaf_iff upper asText hh hb hle, computeRoot_eq_ok_iff hpos]
    constructor
    · have := length_auditPath_le (txs.map sha256) i (by rw [List.length_map]; exact i.isLt)
      rw [List.length_map] at this
      have hsize : (txs.length - 1).size = k := by rw [hn, size_two_pow_sub_one]
      omega
    · have := merkleTree.recombine_auditPath splits_agree_of_two_pow (txs.map sha256) i
        (by rw [List.length_map]; exact i.isLt) ⟨k, by rw [List.length_map, hn]⟩
      simp only [List.length_map, List.getElem_map] at this
      rw [merkleHash_eq_root]
      exact this

/-- A block of four transactions at height one. -/
theorem every_leaf_accepted_four :
    headerMerkleHash ([[1], [2], [3], [4]].map sha256) =
        .ok (merkleHash ([[1], [2], [3], [4]].map sha256)) ∧
      ((∀ i, AcceptsLeaf true true 1 "B" [[1], [2], [3], [4]] i) ↔
        ∃ k ≤ maxAunts, [[1], [2], [3], [(4 : UInt8)]].length = 2 ^ k) :=
  every_leaf_accepted_iff true true 1 (by decide) "B" (by decide) [[1], [2], [3], [4]] (by decide)

/-- The first of three transactions is refused: its path has two aunts, while the verifier
splits three leaves after the first. -/
theorem first_of_three_refused :
    ¬ AcceptsLeaf true true 1 "B" [[1], [2], [3]] (⟨0, by decide⟩ : Fin 3) := by
  intro h
  have hle : [[1], [2], [(3 : UInt8)]].length ≤ 2 ^ 100 := by
    rw [show [[1], [2], [(3 : UInt8)]].length = 3 from rfl]
    decide
  have hroot := ((acceptsLeaf_iff true true (by decide) (by decide) hle _).mp h).2
  rw [computeRoot_eq_ok_iff (by decide)] at hroot
  have hlen := length_of_recombine_zero (by decide) hroot
  rw [List.length_reverse, length_auditPath_zero (by decide)] at hlen
  exact absurd hlen (by decide)

end AidnSpec.Consensus
