/-! The BLAKE3 hash of a byte string, in its plain mode with a digest of 32 bytes. The input is cut
into chunks of 1024 bytes, the chunks are the leaves of a binary tree whose left subtrees are
complete, and the root is compressed with a flag of its own. -/

namespace Conformance.Blake3

abbrev Words8 := Vector UInt32 8
abbrev Words16 := Vector UInt32 16

def initial : Words8 :=
  #v[0x6A09E667, 0xBB67AE85, 0x3C6EF372, 0xA54FF53A,
     0x510E527F, 0x9B05688C, 0x1F83D9AB, 0x5BE0CD19]

def chunkStart : UInt32 := 1
def chunkEnd : UInt32 := 2
def parent : UInt32 := 4
def root : UInt32 := 8

def rotateRight (x n : UInt32) : UInt32 := (x >>> n) ||| (x <<< (32 - n))

/-- Mixes two message words into four words of the state. -/
def mix (s : Words16) (a b c d : Fin 16) (x y : UInt32) : Words16 :=
  let va := s[a] + s[b] + x
  let vd := rotateRight (s[d] ^^^ va) 16
  let vc := s[c] + vd
  let vb := rotateRight (s[b] ^^^ vc) 12
  let va := va + vb + y
  let vd := rotateRight (vd ^^^ va) 8
  let vc := vc + vd
  let vb := rotateRight (vb ^^^ vc) 7
  (((s.set a va).set b vb).set c vc).set d vd

/-- One round: the columns of the state, then its diagonals. -/
def round (s m : Words16) : Words16 :=
  let s := mix s 0 4 8 12 m[0] m[1]
  let s := mix s 1 5 9 13 m[2] m[3]
  let s := mix s 2 6 10 14 m[4] m[5]
  let s := mix s 3 7 11 15 m[6] m[7]
  let s := mix s 0 5 10 15 m[8] m[9]
  let s := mix s 1 6 11 12 m[10] m[11]
  let s := mix s 2 7 8 13 m[12] m[13]
  mix s 3 4 9 14 m[14] m[15]

/-- The order of the message words in the next round. -/
def permute (m : Words16) : Words16 :=
  #v[m[2], m[6], m[3], m[10], m[7], m[0], m[4], m[13],
     m[1], m[11], m[12], m[5], m[9], m[14], m[15], m[8]]

def rounds : Nat → Words16 → Words16 → Words16
  | 0, s, _ => s
  | n + 1, s, m => rounds n (round s m) (permute m)

/-- A node of the tree before its last compression. -/
structure Node where
  chaining : Words8
  block : Words16
  counter : UInt64
  length : UInt32
  flags : UInt32

/-- The compression of a node, with further flags; the first eight words are its chaining value. -/
def Node.compress (n : Node) (flags : UInt32) : Words8 :=
  let h := n.chaining
  let s : Words16 :=
    #v[h[0], h[1], h[2], h[3], h[4], h[5], h[6], h[7],
       initial[0], initial[1], initial[2], initial[3],
       n.counter.toUInt32, (n.counter >>> 32).toUInt32, n.length, n.flags ||| flags]
  let s := rounds 7 s n.block
  #v[s[0] ^^^ s[8], s[1] ^^^ s[9], s[2] ^^^ s[10], s[3] ^^^ s[11],
     s[4] ^^^ s[12], s[5] ^^^ s[13], s[6] ^^^ s[14], s[7] ^^^ s[15]]

/-- Four bytes as a word, the lowest first. -/
def word (a b c d : UInt8) : UInt32 :=
  a.toUInt32 ||| (b.toUInt32 <<< 8) ||| (c.toUInt32 <<< 16) ||| (d.toUInt32 <<< 24)

/-- The words of a byte string, filled up with zeros. -/
def words : List UInt8 → List UInt32
  | a :: b :: c :: d :: rest => word a b c d :: words rest
  | [a, b, c] => [word a b c 0]
  | [a, b] => [word a b 0 0]
  | [a] => [word a 0 0 0]
  | [] => []

/-- Sixteen words from the front of a list, filled up with zeros. -/
def block (ws : List UInt32) : Words16 :=
  let a := ws.toArray
  Vector.ofFn fun i : Fin 16 => a.getD i 0

/-- The node of a chunk, block by block. `fuel` bounds the number of blocks. -/
def chunkBlocks (counter : UInt64) : Nat → Words8 → UInt32 → List UInt8 → Node
  | 0, chaining, flags, bytes =>
    ⟨chaining, block (words bytes), counter, UInt32.ofNat bytes.length, flags ||| chunkEnd⟩
  | fuel + 1, chaining, flags, bytes =>
    if bytes.length ≤ 64 then
      ⟨chaining, block (words bytes), counter, UInt32.ofNat bytes.length, flags ||| chunkEnd⟩
    else
      let first : Node := ⟨chaining, block (words (bytes.take 64)), counter, 64, flags⟩
      chunkBlocks counter fuel (first.compress 0) 0 (bytes.drop 64)

/-- The node of a chunk of at most 1024 bytes, the `counter`-th of the input. -/
def chunk (counter : Nat) (bytes : List UInt8) : Node :=
  chunkBlocks (UInt64.ofNat counter) 15 initial chunkStart bytes

/-- The node above two subtrees. -/
def join (left right : Words8) : Node :=
  ⟨initial, (left ++ right).cast rfl, 0, 64, parent⟩

/-- The length of the left subtree of an input of `n` bytes: the largest power of two of chunks that
leaves something for the right one. -/
def leftLength (n : Nat) : Nat := 1024 <<< ((n - 1) / 1024).log2

theorem leftLength_lt {n : Nat} (h : 1024 < n) : leftLength n < n := by
  have hk : (n - 1) / 1024 ≠ 0 := by omega
  have := Nat.log2_self_le hk
  rw [leftLength, Nat.shiftLeft_eq]
  omega

theorem leftLength_pos (n : Nat) : 0 < leftLength n := by
  have := Nat.two_pow_pos ((n - 1) / 1024).log2
  rw [leftLength, Nat.shiftLeft_eq]
  omega

/-- The node of the tree over an input that begins with the `counter`-th chunk. -/
def tree (counter : Nat) (bytes : List UInt8) : Node :=
  if h : bytes.length ≤ 1024 then chunk counter bytes
  else
    let left := leftLength bytes.length
    have hlt := leftLength_lt (Nat.lt_of_not_le h)
    have hpos := leftLength_pos bytes.length
    join ((tree counter (bytes.take left)).compress 0)
      ((tree (counter + left / 1024) (bytes.drop left)).compress 0)
termination_by bytes.length
decreasing_by
  · rw [List.length_take]; omega
  · rw [List.length_drop]; omega

/-- The bytes of a word, the lowest first. -/
def wordBytes (w : UInt32) : List UInt8 :=
  [w.toUInt8, (w >>> 8).toUInt8, (w >>> 16).toUInt8, (w >>> 24).toUInt8]

/-- The digest of a byte string. -/
def hash (bytes : List UInt8) : List UInt8 :=
  ((tree 0 bytes).compress root).toList.flatMap wordBytes

/-- Bytes in lower-case hexadecimal. -/
def hex (bytes : List UInt8) : String :=
  String.ofList <| bytes.flatMap fun b =>
    [Nat.digitChar (b.toNat / 16), Nat.digitChar (b.toNat % 16)]

end Conformance.Blake3
