/-!
BLAKE3 digests. A text is cut into chunks of 1024 bytes and each chunk into blocks of 64 bytes.
The blocks of a chunk are compressed one after the other, the chunks are joined in pairs up to a
single root, and the root gives the digest.
-/

namespace GraphSegments.Digest

/-- What a compression hands on. -/
abbrev Chaining := Vector UInt32 8

/-- What a compression takes in. -/
abbrev Block := Vector UInt32 16

def initial : Chaining :=
  #v[0x6a09e667, 0xbb67ae85, 0x3c6ef372, 0xa54ff53a, 0x510e527f, 0x9b05688c, 0x1f83d9ab,
    0x5be0cd19]

def rotateRight (word : UInt32) (count : UInt32) : UInt32 :=
  (word >>> count) ||| (word <<< (32 - count))

/-- Mixes four words of the state with two words of the block. -/
def mix (state : Block) (a b c d : Fin 16) (x y : UInt32) : Block :=
  let va := state[a] + state[b] + x
  let vd := rotateRight (state[d] ^^^ va) 16
  let vc := state[c] + vd
  let vb := rotateRight (state[b] ^^^ vc) 12
  let va := va + vb + y
  let vd := rotateRight (vd ^^^ va) 8
  let vc := vc + vd
  let vb := rotateRight (vb ^^^ vc) 7
  (((state.set a va).set b vb).set c vc).set d vd

/-- One round: the columns of the state, then its diagonals. -/
def round (state block : Block) : Block :=
  let state := mix state 0 4 8 12 block[0] block[1]
  let state := mix state 1 5 9 13 block[2] block[3]
  let state := mix state 2 6 10 14 block[4] block[5]
  let state := mix state 3 7 11 15 block[6] block[7]
  let state := mix state 0 5 10 15 block[8] block[9]
  let state := mix state 1 6 11 12 block[10] block[11]
  let state := mix state 2 7 8 13 block[12] block[13]
  mix state 3 4 9 14 block[14] block[15]

/-- Where each word of a block comes from in the next round. -/
def schedule : Vector (Fin 16) 16 := #v[2, 6, 3, 10, 7, 0, 4, 13, 1, 11, 12, 5, 9, 14, 15, 8]

def rounds : Nat → Block → Block → Block
  | 0, state, _ => state
  | count + 1, state, block =>
    rounds count (round state block) (schedule.map fun source => block[source])

/-- A compression that is still to be done, so that the last one of all can be told that it is. -/
structure Node where
  chaining : Chaining
  block : Block
  /-- The number of the chunk. -/
  counter : UInt64
  /-- The bytes of the block. -/
  length : Nat
  flags : UInt32

namespace Node

def chunkStart : UInt32 := 1
def chunkEnd : UInt32 := 2
def parentFlag : UInt32 := 4
def rootFlag : UInt32 := 8

/-- The state before the first round. -/
def start (node : Node) : Block :=
  node.chaining ++
    #v[initial[0], initial[1], initial[2], initial[3], node.counter.toUInt32,
      (node.counter >>> 32).toUInt32, UInt32.ofNat node.length, node.flags]

/-- Compresses a node. -/
def value (node : Node) : Chaining :=
  let state := rounds 7 node.start node.block
  Vector.ofFn fun i : Fin 8 => state[i.val] ^^^ state[i.val + 8]

/-- Joins two nodes. -/
def parent (left right : Node) : Node :=
  ⟨initial, left.value ++ right.value, 0, 64, parentFlag⟩

/-- Joins neighbours; a last one without neighbour stays as it is. -/
def pairs : List Node → List Node
  | left :: right :: rest => parent left right :: pairs rest
  | rest => rest

theorem length_pairs_le : (nodes : List Node) → (pairs nodes).length ≤ nodes.length
  | [] => Nat.le_refl _
  | [_] => Nat.le_refl _
  | _ :: _ :: rest => by
    have shorter := length_pairs_le rest
    simp only [pairs, List.length_cons]
    omega

/-- Joins neighbours until a single node is left. -/
def root (first : Node) : List Node → Node
  | [] => first
  | second :: rest => root (parent first second) (pairs rest)
termination_by others => others.length
decreasing_by exact Nat.lt_succ_of_le (length_pairs_le rest)

end Node

/-- The word of four bytes, the lowest first. Missing bytes are zero. -/
def word (bytes : List UInt8) : UInt32 :=
  (bytes.take 4).foldr (fun byte rest => rest * 256 + byte.toUInt32) 0

/-- The words of a block. -/
def blockOf (bytes : List UInt8) : Block :=
  Vector.ofFn fun i : Fin 16 => word (bytes.drop (4 * i.val))

/-- The parts of `size` bytes, the last one as long as it comes. There is always a part. -/
def parts (size : Nat) : Nat → List UInt8 → List (List UInt8)
  | 0, bytes => [bytes]
  | steps + 1, bytes =>
    if bytes.length ≤ size then [bytes]
    else bytes.take size :: parts size steps (bytes.drop size)

/-- Compresses the blocks of a chunk up to the last one. -/
def chunkNode (counter : UInt64) (chaining : Chaining) (start : UInt32) :
    List (List UInt8) → Node
  | [] => ⟨chaining, blockOf [], counter, 0, start ||| Node.chunkEnd⟩
  | [last] => ⟨chaining, blockOf last, counter, last.length, start ||| Node.chunkEnd⟩
  | block :: rest =>
    let node : Node := ⟨chaining, blockOf block, counter, block.length, start⟩
    chunkNode counter node.value 0 rest

/-- The node of the chunk with a number. -/
def ofChunk (bytes : List UInt8) (number : Nat) : Node :=
  chunkNode (UInt64.ofNat number) initial Node.chunkStart (parts 64 16 bytes)

/-- The words of the digest of some bytes. -/
def words (bytes : List UInt8) : Chaining :=
  match (parts 1024 bytes.length bytes).zipIdx with
  | [] => initial
  | (first, number) :: rest =>
    let top := Node.root (ofChunk first number) (rest.map fun (chunk, n) => ofChunk chunk n)
    { top with flags := top.flags ||| Node.rootFlag }.value

/-- The two hexadecimal digits of a byte. -/
def hexByte (byte : UInt8) : List Char :=
  [Nat.digitChar (byte.toNat / 16), Nat.digitChar (byte.toNat % 16)]

/-- The bytes of a word, the lowest first. -/
def wordBytes (word : UInt32) : List UInt8 :=
  [word.toUInt8, (word >>> 8).toUInt8, (word >>> 16).toUInt8, (word >>> 24).toUInt8]

/-- The 64 hexadecimal digits of the digest of a text. -/
def hexDigits (text : String) : List Char :=
  (words text.toUTF8.toList).toList.flatMap fun word => (wordBytes word).flatMap hexByte

end GraphSegments.Digest
