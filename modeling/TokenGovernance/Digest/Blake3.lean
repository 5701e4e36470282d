import TokenGovernance.Octets

/-! # BLAKE3

The 32-byte unkeyed BLAKE3 digest: chunks of 1024 bytes are compressed block by block, and their
chaining values are joined in a binary tree whose left part is the largest possible power of two.
-/

namespace TokenGovernance.Blake3

/-- Eight words, or sixteen of a block or of the compression state. -/
abbrev Words := Array UInt32

/-- The chaining value at the start of every chunk. -/
def initial : Words :=
  #[0x6a09e667, 0xbb67ae85, 0x3c6ef372, 0xa54ff53a, 0x510e527f, 0x9b05688c, 0x1f83d9ab, 0x5be0cd19]

/-- What is marked in the last word of the compression state. -/
structure Marks where
  chunkStart : Bool
  chunkEnd : Bool
  parent : Bool
  root : Bool

def Marks.bits (m : Marks) : UInt32 :=
  (if m.chunkStart then 1 else 0) ||| (if m.chunkEnd then 2 else 0) ||| (if m.parent then 4 else 0) |||
    (if m.root then 8 else 0)

/-- Where each block word goes for the next round. -/
def permutation : List Nat :=
  [2, 6, 3, 10, 7, 0, 4, 13, 1, 11, 12, 5, 9, 14, 15, 8]

def rotate (x n : UInt32) : UInt32 :=
  (x >>> n) ||| (x <<< (32 - n))

/-- Mixes two block words into four words of the state. -/
def mix (v : Words) (a b c d : Nat) (x y : UInt32) : Words :=
  let va := v.getD a 0 + v.getD b 0 + x
  let vd := rotate (v.getD d 0 ^^^ va) 16
  let vc := v.getD c 0 + vd
  let vb := rotate (v.getD b 0 ^^^ vc) 12
  let va := va + vb + y
  let vd := rotate (vd ^^^ va) 8
  let vc := vc + vd
  let vb := rotate (vb ^^^ vc) 7
  (((v.setIfInBounds a va).setIfInBounds b vb).setIfInBounds c vc).setIfInBounds d vd

/-- The columns of the state, then its diagonals. -/
def lines : List (Nat × Nat × Nat × Nat) :=
  [(0, 4, 8, 12), (1, 5, 9, 13), (2, 6, 10, 14), (3, 7, 11, 15),
   (0, 5, 10, 15), (1, 6, 11, 12), (2, 7, 8, 13), (3, 4, 9, 14)]

/-- One round: each line takes two words of the block. -/
def round (v block : Words) : Words :=
  lines.zipIdx.foldl (fun v ((a, b, c, d), i) =>
    mix v a b c d (block.getD (2 * i) 0) (block.getD (2 * i + 1) 0)) v

/-- The next chaining value: seven rounds, the block permuted between them. -/
def compress (chaining block : Words) (counter : UInt64) (length : Nat) (marks : Marks) : Words :=
  let start := chaining ++ initial.extract 0 4 ++
    #[counter.toUInt32, (counter >>> 32).toUInt32, length.toUInt32, marks.bits]
  let (v, _) := (List.range 7).foldl (fun (v, block) _ =>
    (round v block, (permutation.map fun i => block.getD i 0).toArray)) (start, block)
  Array.ofFn fun i : Fin 8 => v.getD i 0 ^^^ v.getD (i + 8) 0

/-- The block that starts at a byte, filled up with zeros. -/
def blockAt (bytes : Array UInt8) (i : Nat) : Words :=
  Array.ofFn fun j : Fin 16 =>
    (List.range 4).foldl (fun w k => w ||| ((bytes.getD (i + 4 * j + k) 0).toUInt32 <<< (8 * k).toUInt32)) 0

/-- The chaining value of the chunk number `index`, which is the whole message when `root` says so. -/
def chunk (bytes : Array UInt8) (index : Nat) (root : Bool) : Words :=
  let start := 1024 * index
  let size := min 1024 (bytes.size - start)
  let blocks := max 1 ((size + 63) / 64)
  let end_ := bytes.extract 0 (start + size)
  (List.range blocks).foldl (fun chaining i =>
    let last := i + 1 == blocks
    compress chaining (blockAt end_ (start + 64 * i)) index.toUInt64 (min 64 (size - 64 * i))
      ⟨i == 0, last, false, root && last⟩) initial

/-- The largest power of two below `n`, for `n` from two on. -/
def leftSize (n : Nat) : Nat :=
  Nat.pow 2 (n - 1).log2

theorem leftSize_pos (n : Nat) : 0 < leftSize n :=
  Nat.two_pow_pos _

theorem leftSize_lt {n : Nat} (h : ¬n ≤ 1) : leftSize n < n := by
  have : leftSize n ≤ n - 1 := Nat.log2_self_le (by omega)
  omega

/-- The chaining value of the `count` chunks from `first` on. -/
def tree (bytes : Array UInt8) (first count : Nat) (root : Bool) : Words :=
  if h : count ≤ 1 then chunk bytes first root
  else
    have := leftSize_lt h
    have := leftSize_pos count
    let left := tree bytes first (leftSize count) false
    let right := tree bytes (first + leftSize count) (count - leftSize count) false
    compress initial (left ++ right) 0 64 ⟨false, false, true, root⟩
termination_by count
decreasing_by all_goals omega

def hash (message : List UInt8) : Octets 32 :=
  let bytes := message.toArray
  let words := tree bytes 0 (max 1 ((bytes.size + 1023) / 1024)) true
  ⟨(List.range 8).flatMap fun i => toLittleEndian 4 (words.getD i 0).toNat, by
    simp [List.range_succ]⟩

end TokenGovernance.Blake3
