import AidnSpec.Base.TextCodec

/-!
# SHA-256

`hashlib.sha256(message).digest()` as FIPS 180-4 defines it, with words kept as natural numbers
below `2 ^ 32`. Proofs use the digest only through its length; the definition stays computable so
that fixed digests can be evaluated by the kernel.
-/

namespace AidnSpec.Base

universe u

namespace Sha256

/-- Addition modulo `2 ^ 32`. -/
def add32 (x y : Nat) : Nat := (x + y) % 4294967296

/-- Rotation of a 32-bit word to the right. -/
def rotr (n x : Nat) : Nat := (x >>> n) ||| (x <<< (32 - n)) % 4294967296

/-- The round constants `K`. -/
def roundConstants : List Nat :=
  [ 0x428a2f98, 0x71374491, 0xb5c0fbcf, 0xe9b5dba5, 0x3956c25b, 0x59f111f1, 0x923f82a4, 0xab1c5ed5,
    0xd807aa98, 0x12835b01, 0x243185be, 0x550c7dc3, 0x72be5d74, 0x80deb1fe, 0x9bdc06a7, 0xc19bf174,
    0xe49b69c1, 0xefbe4786, 0x0fc19dc6, 0x240ca1cc, 0x2de92c6f, 0x4a7484aa, 0x5cb0a9dc, 0x76f988da,
    0x983e5152, 0xa831c66d, 0xb00327c8, 0xbf597fc7, 0xc6e00bf3, 0xd5a79147, 0x06ca6351, 0x14292967,
    0x27b70a85, 0x2e1b2138, 0x4d2c6dfc, 0x53380d13, 0x650a7354, 0x766a0abb, 0x81c2c92e, 0x92722c85,
    0xa2bfe8a1, 0xa81a664b, 0xc24b8b70, 0xc76c51a3, 0xd192e819, 0xd6990624, 0xf40e3585, 0x106aa070,
    0x19a4c116, 0x1e376c08, 0x2748774c, 0x34b0bcb5, 0x391c0cb3, 0x4ed8aa4a, 0x5b9cca4f, 0x682e6ff3,
    0x748f82ee, 0x78a5636f, 0x84c87814, 0x8cc70208, 0x90befffa, 0xa4506ceb, 0xbef9a3f7, 0xc67178f2]

/-- The initial hash value. -/
def initialState : List Nat :=
  [ 0x6a09e667, 0xbb67ae85, 0x3c6ef372, 0xa54ff53a, 0x510e527f, 0x9b05688c, 0x1f83d9ab, 0x5be0cd19]

/-- Next word of the message schedule from the last sixteen, newest first. -/
def scheduleWord (w : List Nat) : Nat :=
  let w15 := w.getD 14 0
  let w2 := w.getD 1 0
  let s0 := rotr 7 w15 ^^^ rotr 18 w15 ^^^ (w15 >>> 3)
  let s1 := rotr 17 w2 ^^^ rotr 19 w2 ^^^ (w2 >>> 10)
  add32 (add32 (w.getD 15 0) s0) (add32 (w.getD 6 0) s1)

/-- One compression round on the working variables `a … h`. -/
def round (k w : Nat) : List Nat → List Nat
  | [a, b, c, d, e, f, g, h] =>
    let s1 := rotr 6 e ^^^ rotr 11 e ^^^ rotr 25 e
    let ch := (e &&& f) ^^^ ((4294967295 - e) &&& g)
    let t1 := add32 (add32 h s1) (add32 ch (add32 k w))
    let s0 := rotr 2 a ^^^ rotr 13 a ^^^ rotr 22 a
    let maj := (a &&& b) ^^^ (a &&& c) ^^^ (b &&& c)
    [add32 t1 (add32 s0 maj), a, b, c, add32 d t1, e, f, g]
  | s => s

/-- The rounds that remain, sliding a sixteen-word window (oldest word first to be used). -/
def rounds : List Nat → List Nat → List Nat → List Nat
  | [], _, s => s
  | k :: ks, w, s => rounds ks (scheduleWord w :: w.take 15) (round k (w.getD 15 0) s)

/-- Compress one block of sixteen words into the chaining value. -/
def compress (s block : List Nat) : List Nat :=
  List.zipWith add32 s (rounds roundConstants block.reverse s)

/-- Big-endian words of a byte string. -/
def words : Bytes → List Nat
  | a :: b :: c :: d :: rest =>
    (a.toNat * 16777216 + b.toNat * 65536 + c.toNat * 256 + d.toNat) :: words rest
  | _ => []

def wordBytes (x : Nat) : Bytes :=
  [UInt8.ofNat (x / 16777216), UInt8.ofNat (x / 65536), UInt8.ofNat (x / 256), UInt8.ofNat x]

/-- The message followed by `0x80`, zeros up to a block boundary, and its length in bits. -/
def padded (m : Bytes) : Bytes :=
  let bits := 8 * m.length
  m ++ 0x80 :: List.replicate ((119 - m.length % 64) % 64) 0 ++
    wordBytes (bits / 4294967296) ++ wordBytes bits

/-- Absorb `n` blocks. -/
def absorb : Nat → List Nat → List Nat → List Nat
  | 0, _, s => s
  | n + 1, ws, s => absorb n (ws.drop 16) (compress s (ws.take 16))

/-- The chaining value after the whole padded message. -/
def finalState (m : Bytes) : List Nat :=
  let ws := words (padded m)
  absorb (ws.length / 16) ws initialState

end Sha256

open Sha256

/-- `hashlib.sha256(message).digest()`. -/
def sha256 (m : Bytes) : Bytes := (finalState m).flatMap wordBytes

private theorem length_round (k w : Nat) (s : List Nat) :
    (Sha256.round k w s).length = s.length := by
  unfold Sha256.round
  split <;> simp

private theorem length_rounds (ks w s : List Nat) : (rounds ks w s).length = s.length := by
  induction ks generalizing w s with
  | nil => rfl
  | cons k ks ih => rw [rounds, ih, length_round]

private theorem length_compress (s block : List Nat) : (compress s block).length = s.length := by
  rw [compress, List.length_zipWith, length_rounds, Nat.min_self]

private theorem length_absorb (n : Nat) (ws s : List Nat) : (absorb n ws s).length = s.length := by
  induction n generalizing ws s with
  | zero => rfl
  | succ n ih => rw [absorb, ih, length_compress]

private theorem length_flatMap_wordBytes (xs : List Nat) :
    (xs.flatMap wordBytes).length = 4 * xs.length := by
  induction xs with
  | nil => rfl
  | cons x xs ih => simp only [List.flatMap_cons, List.length_append, ih, wordBytes,
      List.length_cons, List.length_nil]; omega

/-- A digest has 32 bytes. -/
theorem length_sha256 (m : Bytes) : (sha256 m).length = 32 := by
  rw [sha256, length_flatMap_wordBytes, finalState, length_absorb]
  rfl

/-! ## Evaluation

A fixed digest is evaluated by reduction. Words are put in normal form before they are used, so
that no word is computed twice. -/

namespace Sha256

/-- Put a number in normal form before it is used. -/
def force {β : Type u} (x : Nat) (f : Nat → β) : β := Nat.rec (f 0) (fun n _ => f (n + 1)) x

theorem force_eq {β : Type u} (x : Nat) (f : Nat → β) : force x f = f x := by
  cases x <;> rfl

/-- Addition modulo `2 ^ 32`, on the operations that the kernel computes. -/
def sum32 (x y : Nat) : Nat := Nat.mod (Nat.add x y) 4294967296

/-- Rotation by `n`, where `m` is `32 - n`. -/
def turn (n m x : Nat) : Nat :=
  Nat.lor (Nat.shiftRight x n) (Nat.mod (Nat.shiftLeft x m) 4294967296)

/-- `scheduleWord` of the words that it reads. -/
def nextWord (w1 w6 w14 w15 : Nat) : Nat :=
  sum32
    (sum32 w15 (Nat.xor (Nat.xor (turn 7 25 w14) (turn 18 14 w14)) (Nat.shiftRight w14 3)))
    (sum32 w6 (Nat.xor (Nat.xor (turn 17 15 w1) (turn 19 13 w1)) (Nat.shiftRight w1 10)))

def firstSum (k w e f g h : Nat) : Nat :=
  sum32 (sum32 h (Nat.xor (Nat.xor (turn 6 26 e) (turn 11 21 e)) (turn 25 7 e)))
    (sum32 (Nat.xor (Nat.land e f) (Nat.land (Nat.sub 4294967295 e) g)) (sum32 k w))

def secondSum (a b c : Nat) : Nat :=
  sum32 (Nat.xor (Nat.xor (turn 2 30 a) (turn 13 19 a)) (turn 22 10 a))
    (Nat.xor (Nat.xor (Nat.land a b) (Nat.land a c)) (Nat.land b c))

/-- `rounds` with its window (newest word first) and its working variables side by side. -/
def forcedRounds : List Nat → Nat → Nat → Nat → Nat → Nat → Nat → Nat → Nat → Nat → Nat → Nat →
    Nat → Nat → Nat → Nat → Nat → Nat → Nat → Nat → Nat → Nat → Nat → Nat → Nat → List Nat
  | [], _, _, _, _, _, _, _, _, _, _, _, _, _, _, _, _, a, b, c, d, e, f, g, h =>
    [a, b, c, d, e, f, g, h]
  | k :: ks, w0, w1, w2, w3, w4, w5, w6, w7, w8, w9, w10, w11, w12, w13, w14, w15,
      a, b, c, d, e, f, g, h =>
    force (nextWord w1 w6 w14 w15) fun w =>
    force (firstSum k w15 e f g h) fun t =>
    force (sum32 t (secondSum a b c)) fun a' =>
    force (sum32 d t) fun e' =>
    forcedRounds ks w w0 w1 w2 w3 w4 w5 w6 w7 w8 w9 w10 w11 w12 w13 w14 a' a b c e' e f g

theorem forcedRounds_eq (ks : List Nat) (w0 w1 w2 w3 w4 w5 w6 w7 w8 w9 w10 w11 w12 w13 w14 w15
    a b c d e f g h : Nat) :
    forcedRounds ks w0 w1 w2 w3 w4 w5 w6 w7 w8 w9 w10 w11 w12 w13 w14 w15 a b c d e f g h =
      rounds ks [w0, w1, w2, w3, w4, w5, w6, w7, w8, w9, w10, w11, w12, w13, w14, w15]
        [a, b, c, d, e, f, g, h] := by
  induction ks generalizing w0 w1 w2 w3 w4 w5 w6 w7 w8 w9 w10 w11 w12 w13 w14 w15 a b c d e f g h
    with
  | nil => rfl
  | cons k ks ih =>
    rw [forcedRounds, force_eq, force_eq, force_eq, force_eq, ih]
    rfl

/-- Put every number of a list in normal form. -/
def forceList {β : Type u} : List Nat → (List Nat → β) → β
  | [], f => f []
  | x :: xs, f => force x fun x => forceList xs fun xs => f (x :: xs)

theorem forceList_eq {β : Type u} (xs : List Nat) (f : List Nat → β) : forceList xs f = f xs := by
  induction xs generalizing f with
  | nil => rfl
  | cons x xs ih => rw [forceList, force_eq, ih]

def forcedCompress : List Nat → List Nat → List Nat
  | [a, b, c, d, e, f, g, h],
      [w15, w14, w13, w12, w11, w10, w9, w8, w7, w6, w5, w4, w3, w2, w1, w0] =>
    List.zipWith sum32 [a, b, c, d, e, f, g, h]
      (forcedRounds roundConstants w0 w1 w2 w3 w4 w5 w6 w7 w8 w9 w10 w11 w12 w13 w14 w15
        a b c d e f g h)
  | s, block => compress s block

theorem forcedCompress_eq (s block : List Nat) : forcedCompress s block = compress s block := by
  unfold forcedCompress
  split
  · rw [forcedRounds_eq]
    rfl
  · rfl

def forcedAbsorb : Nat → List Nat → List Nat → List Nat
  | 0, _, s => s
  | n + 1, ws, s =>
    forceList (ws.take 16) fun block =>
    forceList (forcedCompress s block) fun s => forcedAbsorb n (ws.drop 16) s

theorem forcedAbsorb_eq (n : Nat) (ws s : List Nat) : forcedAbsorb n ws s = absorb n ws s := by
  induction n generalizing ws s with
  | zero => rfl
  | succ n ih => rw [forcedAbsorb, absorb, forceList_eq, forceList_eq, ih, forcedCompress_eq]

end Sha256

/-- `sha256` on words in normal form. -/
def forcedSha256 (m : Bytes) : Bytes :=
  forceList (words (padded m)) fun ws =>
    (forcedAbsorb (ws.length / 16) ws initialState).flatMap wordBytes

theorem forcedSha256_eq (m : Bytes) : forcedSha256 m = sha256 m := by
  rw [forcedSha256, forceList_eq, forcedAbsorb_eq]
  rfl

/-- SHA-256 is injective on these messages. -/
def CollisionFree (messages : List Bytes) : Prop :=
  ∀ m ∈ messages, ∀ m' ∈ messages, sha256 m = sha256 m' → m = m'

instance (messages : List Bytes) : Decidable (CollisionFree messages) :=
  decidable_of_iff (∀ m ∈ messages, ∀ m' ∈ messages, forcedSha256 m = forcedSha256 m' → m = m') (by
    simp only [CollisionFree, forcedSha256_eq])

/-- The FIPS 180-4 one-block example message `abc`. -/
example : hexEncode false (sha256 [0x61, 0x62, 0x63]) =
    "ba7816bf8f01cfea414140de5dae2223b00361a396177a9cb410ff61f20015ad" := by
  decide +kernel

end AidnSpec.Base
