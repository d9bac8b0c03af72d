import AidnSpec.Consensus.CometbftMerkle

/-!
# Soundness of transaction proofs

What an accepted answer of `consensus/cometbft_merkle.py:12–62` proves about the block whose
`data_hash` it was checked against. The `total` and the `index` of the answer choose the shape of
the recomputation; they are compared with nothing. A forged shape needs a collision of SHA-256
between the strings hashed on the two sides.
-/

namespace AidnSpec.Consensus

open Base List Option

/-- What `_inner_hash` hashes. -/
def joinMessage (pair : Bytes × Bytes) : Bytes := 0x01 :: (pair.1 ++ pair.2)

/-- The byte strings hashed while the `data_hash` of a block is built: every transaction,
the leaf over its hash, and the inner nodes. -/
def dataHashMessages (txs : List Bytes) : List Bytes :=
  txs ++ (txs.map sha256).map (0x00 :: ·) ++
    (merkleTree.joined (txs.map sha256)).map joinMessage

/-- A leaf hash is a digest. -/
theorem length_leafHash (value : Bytes) : (leafHash value).length = 32 := length_sha256 _

/-- An inner hash is a digest. -/
theorem length_innerHash (left right : Bytes) : (innerHash left right).length = 32 :=
  length_sha256 _

def membersOf : PyValue → List (String × PyValue)
  | .dict members => members
  | _ => []

def itemsOf : PyValue → List PyValue
  | .list items => items
  | _ => []

/-- The byte strings the verifier hashes on an answer whose fields decode: the
transaction, the leaf over its hash, and a node for each aunt. -/
def inclusionMessages (transactionResult : List (String × PyValue)) :
    Except PyError (List Bytes) := do
  let proof := membersOf (PyValue.get (membersOf (PyValue.get transactionResult "proof")) "proof")
  let tx ← decodeBase64 (PyValue.get transactionResult "tx")
  let total ← positiveInt (PyValue.get proof "total")
  let index ← nonnegativeInt (PyValue.get proof "index")
  let aunts ← (itemsOf (PyValue.get proof "aunts")).mapM decodeProofHash
  return tx :: (0x00 :: sha256 tx) ::
    (HashTree.rejoined innerHash verifierSplit (leafHash (sha256 tx)) total index
      aunts.reverse).map joinMessage

/-- `_decode_proof_hash` returns 32 bytes. -/
theorem length_of_decodeProofHash {value : PyValue} {decoded : Bytes}
    (h : decodeProofHash value = .ok decoded) : decoded.length = 32 := by
  unfold decodeProofHash at h
  split at h
  · split at h
    · cases h
    · split_ifs at h with hlen
      · cases h
      · cases h
        simpa [hashLength] using hlen
  · cases h

/-- `_positive_int` returns at least one. -/
theorem one_le_of_positiveInt {value : PyValue} {result : Nat}
    (h : positiveInt value = .ok result) : 1 ≤ result := by
  rw [positiveInt, bind_eq_ok] at h
  obtain ⟨n, -, h⟩ := h
  split_ifs at h with hn
  · cases h
  · cases h
    omega

/-- What an accepted answer has decoded to: the transaction behind `transaction_hash`, a
shape, and aunts of 32 bytes that recombine to the committed root. -/
theorem decoded_of_accepted {transactionResult : List (String × PyValue)}
    {transactionHash blockId dataHash : String} {blockHeight : Int} {root : Bytes}
    (hroot : decodeHash (.str dataHash) = .ok root)
    (h : verifyCometbftTransactionInclusion transactionResult transactionHash blockHeight blockId
      dataHash = .ok true) :
    ∃ (tx : Bytes) (total index : Nat) (aunts : List Bytes),
      decodeBase64 (PyValue.get transactionResult "tx") = .ok tx ∧
        decodeHash (.str transactionHash) = .ok (sha256 tx) ∧
        inclusionMessages transactionResult = .ok (tx :: (0x00 :: sha256 tx) ::
          (HashTree.rejoined innerHash verifierSplit (leafHash (sha256 tx)) total index
            aunts.reverse).map joinMessage) ∧
        (∀ aunt ∈ aunts, aunt.length = 32) ∧
        HashTree.recombine innerHash verifierSplit (leafHash (sha256 tx)) total index
          aunts.reverse = some root := by
  rw [verifyCometbftTransactionInclusion] at h
  split at h
  · cases h
  · cases h
  · rw [verifyInclusionBody] at h
    split at h
    · cases h
    · simp only [hroot, bind_eq_ok, Except.ok.injEq, exists_eq_left'] at h
      obtain ⟨normalized, hnormalized, tx, htx, h⟩ := h
      split_ifs at h with hhash
      · cases h
      · rw [ne_eq, not_not] at hhash
        subst hhash
        split at h
        · next txProof htxProof =>
          obtain ⟨data, -, h⟩ := bind_eq_ok.mp h
          split_ifs at h
          · cases h
          · obtain ⟨rootHash, -, h⟩ := bind_eq_ok.mp h
            split_ifs at h
            · cases h
            · split at h
              · next proof hproof =>
                simp only [bind_eq_ok] at h
                obtain ⟨total, htotal, index, hindex, h⟩ := h
                split_ifs at h
                · cases h
                · obtain ⟨leaf, -, h⟩ := bind_eq_ok.mp h
                  split_ifs at h with hleaf
                  · cases h
                  · rw [ne_eq, not_not] at hleaf
                    subst hleaf
                    split at h
                    · next auntsValue haunts =>
                      split_ifs at h
                      · cases h
                      · simp only [bind_eq_ok, pure_eq_ok, beq_iff_eq] at h
                        obtain ⟨aunts, hdecoded, computed, hcomputed, rfl⟩ := h
                        refine ⟨tx, total, index, aunts, htx, hnormalized, ?_, ?_, ?_⟩
                        · simp only [inclusionMessages, htxProof, membersOf, hproof, haunts,
                            itemsOf, htx, htotal, hindex, hdecoded, bind, Except.bind, pure,
                            Except.pure]
                        · exact fun aunt haunt =>
                            let ⟨_, _, h⟩ := exists_of_mem_mapM hdecoded haunt
                            length_of_decodeProofHash h
                        · exact (computeRoot_eq_ok_iff (one_le_of_positiveInt htotal) _ _ _ _).mp
                            hcomputed
                    · cases h
              · cases h
        · cases h

/-! ## The messages of both sides -/

/-- The tree joins digests only. -/
theorem length_of_mem_joined {xs : List Bytes} {p : Bytes × Bytes}
    (hp : p ∈ merkleTree.joined xs) : p.1.length = 32 := by
  induction hn : xs.length using Nat.strongRecOn generalizing xs with
  | ind n ih =>
    subst hn
    by_cases h2 : 2 ≤ xs.length
    · have hpos := merkleTree.split_pos _ h2
      have hlt := merkleTree.split_lt _ h2
      rw [merkleTree.joined_of_two_le h2, mem_cons, mem_append] at hp
      rcases hp with rfl | hp | hp
      · exact length_merkleTree_root _
      · exact ih _ (by rw [length_take]; omega) hp rfl
      · exact ih _ (by rw [length_drop]; omega) hp rfl
    · match xs, h2 with
      | [], _ => rw [HashTree.joined] at hp; cases hp
      | [x], _ => rw [merkleTree.joined_singleton] at hp; cases hp
      | x :: y :: rest, h2 => exact absurd (by simp) h2

/-- The verifier joins strings of 32 bytes only, as the aunts it decodes have 32. -/
theorem length_of_mem_rejoined {split : Nat → Nat} {leaf : Bytes} (hleaf : leaf.length = 32)
    {total index : Nat} {path : List Bytes} (hpath : ∀ aunt ∈ path, aunt.length = 32)
    {q : Bytes × Bytes} (hq : q ∈ HashTree.rejoined innerHash split leaf total index path) :
    q.1.length = 32 := by
  have hpart : ∀ {total index : Nat} {path : List Bytes} {part : Bytes},
      HashTree.recombine innerHash split leaf total index path = some part →
        part.length = 32 := by
    intro total index path part h
    obtain rfl | ⟨q, -, rfl⟩ := HashTree.recombine_cases h
    · exact hleaf
    · exact length_sha256 _
  induction path generalizing total index with
  | nil => cases hq
  | cons aunt rest ih =>
    rw [HashTree.rejoined] at hq
    split_ifs at hq
    · cases hq
    · rw [mem_append, mem_toList, map_eq_some_iff] at hq
      rcases hq with ⟨part, h, rfl⟩ | hq
      · exact hpart h
      · exact ih (fun a ha => hpath a (mem_cons_of_mem _ ha)) hq
    · rw [mem_append, mem_toList, map_eq_some_iff] at hq
      rcases hq with ⟨part, -, rfl⟩ | hq
      · exact hpath aunt mem_cons_self
      · exact ih (fun a ha => hpath a (mem_cons_of_mem _ ha)) hq

/-- Two nodes over digests hash one message only if they are one node. -/
theorem joinMessage_inj {p q : Bytes × Bytes} (hp : p.1.length = 32) (hq : q.1.length = 32)
    (h : joinMessage p = joinMessage q) : p = q := by
  obtain ⟨hl, hr⟩ := append_inj (List.cons.inj h).2 (hp.trans hq.symm)
  exact Prod.ext hl hr

/-- A leaf and a node never hash one message. -/
theorem leafMessage_ne_joinMessage (value : Bytes) (p : Bytes × Bytes) :
    0x00 :: value ≠ joinMessage p := by
  intro h
  exact absurd (List.cons.inj h).1 (by decide)

/-- A transaction proof is sound: when SHA-256 has no collision between the strings hashed
for the block and those hashed for the answer, an accepted answer is about a transaction of
the block, whatever total and index it claims. -/
theorem accepted_transaction_is_listed {txs : List Bytes} (hne : txs ≠ [])
    {transactionResult : List (String × PyValue)} {transactionHash blockId dataHash : String}
    {blockHeight : Int} (hroot : decodeHash (.str dataHash) = .ok (merkleHash (txs.map sha256)))
    (hfree : ∀ messages, inclusionMessages transactionResult = .ok messages →
      CollisionFree (dataHashMessages txs ++ messages))
    (h : verifyCometbftTransactionInclusion transactionResult transactionHash blockHeight blockId
      dataHash = .ok true) :
    ∃ tx ∈ txs, decodeHash (.str transactionHash) = .ok (sha256 tx) ∧
      decodeBase64 (PyValue.get transactionResult "tx") = .ok tx := by
  obtain ⟨tx, total, index, aunts, htx, hhash, hmessages, haunts, hrecombine⟩ :=
    decoded_of_accepted hroot h
  have hfree := hfree _ hmessages
  rw [merkleHash_eq_root] at hrecombine
  have hpath : ∀ aunt ∈ aunts.reverse, aunt.length = 32 := by simpa using haunts
  generalize hq : HashTree.rejoined innerHash verifierSplit (leafHash (sha256 tx)) total index
    aunts.reverse = rejoined at hfree
  generalize hall : dataHashMessages txs ++ tx :: (0x00 :: sha256 tx) ::
    rejoined.map joinMessage = all at hfree
  have hnode : ∀ p ∈ merkleTree.joined (txs.map sha256), joinMessage p ∈ all := by
    intro p hp
    simp only [← hall, dataHashMessages, List.mem_append]
    exact .inl (.inr (List.mem_map_of_mem hp))
  have hstep : ∀ q ∈ rejoined, joinMessage q ∈ all := by
    intro q hq
    simp only [← hall, List.mem_append, List.mem_cons]
    exact .inr (.inr (.inr (List.mem_map_of_mem hq)))
  have hleaf : ∀ x ∈ txs.map sha256, 0x00 :: x ∈ all := by
    intro x hx
    simp only [← hall, dataHashMessages, List.mem_append]
    exact .inl (.inl (.inr (List.mem_map_of_mem hx)))
  have hlisted : ∀ x ∈ txs, x ∈ all := by
    intro x hx
    simp only [← hall, dataHashMessages, List.mem_append]
    exact .inl (.inl (.inl hx))
  have hclaimed : 0x00 :: sha256 tx ∈ all := by simp [← hall]
  have hsent : tx ∈ all := by simp [← hall]
  -- the claimed leaf is a leaf of the block, so its hash is the hash of a transaction, and
  -- the transaction sent is that one
  obtain ⟨x, hx, hsame⟩ := merkleTree.exists_leaf_of_recombine (by simpa using hne)
    (fun p hp q hq' heq => joinMessage_inj (length_of_mem_joined hp)
      (length_of_mem_rejoined (length_sha256 _) hpath hq')
      (hfree _ (hnode p hp) _ (hstep q (hq ▸ hq')) heq))
    (fun p hp heq => leafMessage_ne_joinMessage _ p (hfree _ hclaimed _ (hnode p hp) heq.symm))
    (fun x hx q hq' heq => leafMessage_ne_joinMessage x q
      (hfree _ (hleaf x hx) _ (hstep q (hq ▸ hq')) heq))
    hrecombine
  obtain ⟨listed, hmem, rfl⟩ := List.mem_map.mp hx
  have hhashes : sha256 listed = sha256 tx :=
    (List.cons.inj (hfree _ (hleaf _ hx) _ hclaimed hsame)).2
  obtain rfl := hfree _ (hlisted _ hmem) _ hsent hhashes
  exact ⟨listed, hmem, hhash, htx⟩

/-- An answer for the first of two transactions that claims three leaves. -/
def threeLeafAnswer : List (String × PyValue) :=
  [("tx", .str (b64Encode [1])), ("proof", .dict
      [("root_hash", .str (hexEncode true (merkleHash ([[1], [2]].map sha256)))),
        ("data", .str (b64Encode [1])), ("proof", .dict
          [("total", .int 3), ("index", .int 0),
            ("leaf_hash", .str (b64Encode (leafHash (sha256 [1])))),
            ("aunts", .list [.str (b64Encode (leafHash (sha256 [2])))])])])]

/-- Two leaves are split in the middle. -/
theorem merkleSplit_two : merkleSplit 2 = 1 := by
  rw [merkleSplit_eq (by decide)]
  simp

/-- Two leaves are joined once. -/
theorem root_two (x y : Bytes) : merkleTree.root [x, y] = innerHash (leafHash x) (leafHash y) := by
  have hsplit : merkleTree.split [x, y].length = 1 := by simp [merkleSplit_two]
  rw [merkleTree.root_of_two_le (by simp), hsplit]
  exact congrArg₂ innerHash (merkleTree.root_singleton x) (merkleTree.root_singleton y)

/-- Two leaves are one pair. -/
theorem joined_two (x y : Bytes) : merkleTree.joined [x, y] = [(leafHash x, leafHash y)] := by
  have hsplit : merkleTree.split [x, y].length = 1 := by simp [merkleSplit_two]
  rw [merkleTree.joined_of_two_le (by simp), hsplit]
  simp only [take_succ_cons, take_zero, drop_succ_cons, drop_zero,
    merkleTree.joined_singleton, merkleTree.root_singleton, append_nil]
  rfl

/-- The answer claims one leaf beside the two others. -/
theorem recombine_three (leaf aunt : Bytes) :
    HashTree.recombine innerHash verifierSplit leaf 3 0 [aunt] = some (innerHash leaf aunt) ∧
      HashTree.rejoined innerHash verifierSplit leaf 3 0 [aunt] = [(leaf, aunt)] := ⟨rfl, rfl⟩

/-- The single aunt of the answer decodes. -/
theorem decode_threeLeafAunts :
    [PyValue.str (b64Encode (leafHash (sha256 [2])))].mapM decodeProofHash =
      .ok [leafHash (sha256 [2])] := by
  rw [mapM_cons, decodeProofHash_b64Encode (length_leafHash _)]
  rfl

/-- The answer is accepted. -/
theorem verify_threeLeafAnswer :
    verifyCometbftTransactionInclusion threeLeafAnswer (hexEncode true (sha256 [1])) 1 "B"
      (hexEncode true (merkleHash ([[1], [2]].map sha256))) = .ok true := by
  have hroot : merkleHash ([[1], [2]].map sha256) =
      innerHash (leafHash (sha256 [1])) (leafHash (sha256 [2])) := by
    rw [merkleHash_eq_root]
    exact root_two _ _
  have hinner := decodeHash_hexEncode true
    (length_innerHash (leafHash (sha256 [1])) (leafHash (sha256 [2])))
  have hleaf := decodeProofHash_b64Encode (length_leafHash (sha256 [1]))
  have htotal : positiveInt (.int 3) = .ok 3 := rfl
  have hindex : nonnegativeInt (.int 0) = .ok 0 := rfl
  have hcompute := (computeRoot_eq_ok_iff (show 1 ≤ 3 by decide) 0 (leafHash (sha256 [1]))
    [leafHash (sha256 [2])] _).mpr (recombine_three _ _).1
  have hbody : verifyInclusionBody threeLeafAnswer (hexEncode true (sha256 [1])) 1 "B"
      (hexEncode true (merkleHash ([[1], [2]].map sha256))) = .ok true := by
    rw [verifyInclusionBody, if_neg (by decide), hroot]
    simp only [threeLeafAnswer, PyValue.get, lookup_cons, String.reduceBEq, getD_some, hroot,
      decodeBase64, b64Decode_b64Encode, decodeHash_hexEncode true (length_sha256 _), hinner,
      htotal, hindex, hleaf, decode_threeLeafAunts, hcompute, bind, Except.bind, ne_eq,
      not_true_eq_false, if_false]
    simp [maxAunts, pure, Except.pure]
  rw [verifyCometbftTransactionInclusion, hbody]

/-- The answer is accepted although its total is not the number of transactions. -/
theorem three_leaf_answer_listed : ∃ tx ∈ [[1], [2]],
    decodeHash (.str (hexEncode true (sha256 [1]))) = .ok (sha256 tx) ∧
      decodeBase64 (PyValue.get threeLeafAnswer "tx") = .ok tx := by
  have hlength : (merkleHash ([[1], [2]].map sha256)).length = 32 := by
    rw [merkleHash_eq_root]
    exact length_merkleTree_root _
  have htotal : positiveInt (.int 3) = .ok 3 := rfl
  have hindex : nonnegativeInt (.int 0) = .ok 0 := rfl
  refine accepted_transaction_is_listed (by simp) (decodeHash_hexEncode true hlength) ?_
    verify_threeLeafAnswer
  intro messages hmessages
  simp only [inclusionMessages, threeLeafAnswer, membersOf, itemsOf, PyValue.get, List.lookup_cons,
    String.reduceBEq, Option.getD_some, decodeBase64, b64Decode_b64Encode, htotal, hindex,
    decode_threeLeafAunts, List.reverse_singleton, (recombine_three _ _).2, bind, Except.bind,
    pure, Except.pure, Except.ok.injEq] at hmessages
  subst hmessages
  have hblock : dataHashMessages [[1], [2]] = [[1], [2], 0x00 :: sha256 [1], 0x00 :: sha256 [2],
      joinMessage (leafHash (sha256 [1]), leafHash (sha256 [2]))] := by
    have hjoined : merkleTree.joined ([[1], [2]].map sha256) = _ := joined_two _ _
    rw [dataHashMessages, hjoined]
    rfl
  rw [hblock]
  decide +kernel

end AidnSpec.Consensus
