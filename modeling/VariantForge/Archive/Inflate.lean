import VariantForge.Archive.Fault

/-!
Unpacking compressed data.

The data are blocks of bits. A block is stored as it is, or holds codes for bytes and for copies of
what was unpacked before; the codes are those of the format itself or are described at the front
of the block. Of the codes of one length each is the one before it plus one, so the number of codes
of each length tells them all.
-/

namespace VariantForge.Inflate

/-- The data and what is done of them: the position of the next bit and what was unpacked. -/
structure State where
  position : Nat
  done : ByteArray

/-- Unpacking step by step over the given data. -/
abbrev Step (α : Type) := ReaderT ByteArray (StateT State (Except InflateFault)) α

/-- The next bit. -/
def bit : Step Nat := do
  let data ← read
  let s ← get
  match data[s.position / 8]? with
  | none => throw .endOfInput
  | some b =>
    set { s with position := s.position + 1 }
    return (b.toNat >>> (s.position % 8)) % 2

/-- A number of `n` bits, the lowest first. -/
def bits : Nat → Step Nat
  | 0 => return 0
  | n + 1 => do
    let low ← bit
    let high ← bits n
    return low + 2 * high

/-- A set of codes: how many there are of each length from one bit up, and their symbols, by length
and then by value. -/
structure Codes where
  counts : List Nat
  symbols : Array Nat

/-- The longest code has fifteen bits. -/
def longest : Nat := 15

/-- The codes in which symbol `i` has `lengths[i]` bits, zero for a symbol that does not occur. -/
def Codes.ofLengths (lengths : List Nat) : Codes :=
  let indexed := lengths.zipIdx
  let ofLength (n : Nat) := indexed.filterMap fun (l, i) => if l = n then some i else none
  let groups := (List.range longest).map fun n => ofLength (n + 1)
  ⟨groups.map List.length, (groups.flatten).toArray⟩

/-- How many codes of the greatest length are still free after the given counts, negative if there
are too many codes. -/
def freeCodes (counts : List Nat) : Int := counts.foldl (fun (left : Int) (n : Nat) => 2 * left - n) 1

/-- Whether there are too many codes already among the shorter ones. -/
def overfull : Int → List Nat → Bool
  | _, [] => false
  | left, n :: rest => 2 * left - n < 0 || overfull (2 * left - n) rest

/-- Whether the codes fill all values; a single code of one bit passes too, if `lone` allows it. -/
def Codes.fits (c : Codes) (lone : Bool) : Bool :=
  !overfull 1 c.counts &&
    (freeCodes c.counts == 0 || c.symbols.isEmpty || (lone && c.counts.tail.all (· == 0)))

/-- Reads a code bit by bit. `code` holds the bits so far, `first` the first code of this length and
`index` the place of its symbol. -/
def decodeFrom (symbols : Array Nat) (fault : InflateFault) : List Nat → Nat → Nat → Nat → Step Nat
  | [], _, _, _ => throw fault
  | count :: rest, code, first, index => do
    let code := code + (← bit)
    if code < first + count then return (symbols[index + (code - first)]?).getD 0
    decodeFrom symbols fault rest (2 * code) (2 * (first + count)) (index + count)

/-- Reads one symbol. A set without codes fails at the first bit, one with a single code at the
bit that is not its code. -/
def decode (c : Codes) (fault : InflateFault) : Step Nat :=
  if c.symbols.size ≤ 1 then do
    let code ← bit
    if code < c.symbols.size then return (c.symbols[0]?).getD 0
    throw fault
  else decodeFrom c.symbols fault c.counts 0 0 0

/-- Adds a byte to what was unpacked. -/
def emit (b : UInt8) : Step Unit := modify fun s => { s with done := s.done.push b }

/-- Copies `n` bytes from `distance` bytes back. -/
def copy (distance : Nat) : Nat → Step Unit
  | 0 => return ()
  | n + 1 => do
    let s ← get
    emit ((s.done[s.done.size - distance]?).getD 0)
    copy distance n

/-- The shortest copy of each length symbol, and how many more bits tell its length. -/
def lengthTable : Array (Nat × Nat) :=
  #[(3, 0), (4, 0), (5, 0), (6, 0), (7, 0), (8, 0), (9, 0), (10, 0), (11, 1), (13, 1), (15, 1), (17, 1),
    (19, 2), (23, 2), (27, 2), (31, 2), (35, 3), (43, 3), (51, 3), (59, 3), (67, 4), (83, 4), (99, 4),
    (115, 4), (131, 5), (163, 5), (195, 5), (227, 5), (258, 0)]

/-- The nearest distance of each distance symbol, and how many more bits tell the distance. -/
def distanceTable : Array (Nat × Nat) :=
  #[(1, 0), (2, 0), (3, 0), (4, 0), (5, 1), (7, 1), (9, 2), (13, 2), (17, 3), (25, 3), (33, 4), (49, 4),
    (65, 5), (97, 5), (129, 6), (193, 6), (257, 7), (385, 7), (513, 8), (769, 8), (1025, 9), (1537, 9),
    (2049, 10), (3073, 10), (4097, 11), (6145, 11), (8193, 12), (12289, 12), (16385, 13), (24577, 13)]

/-- Copies what a length symbol and the distance after it ask for. -/
def copyMatch (distances : Codes) (symbol : Nat) : Step Unit := do
  match lengthTable[symbol - 257]? with
  | none => throw .badLiteral
  | some (base, extra) =>
    let length := base + (← bits extra)
    match distanceTable[← decode distances .badDistance]? with
    | none => throw .badDistance
    | some (base, extra) =>
      let distance := base + (← bits extra)
      if (← get).done.size < distance then throw .tooFarBack
      copy distance length

/-- The symbols of a block up to its end. `bound` limits their number. -/
def codedBlock (literals distances : Codes) : Nat → Step Unit
  | 0 => throw .endOfInput
  | bound + 1 => do
    let symbol ← decode literals .badLiteral
    if symbol = 256 then return ()
    if symbol < 256 then emit symbol.toUInt8 else copyMatch distances symbol
    codedBlock literals distances bound

/-- Copies `n` bytes of the data as they are. -/
def copyStored : Nat → Step Unit
  | 0 => return ()
  | n + 1 => do
    let data ← read
    let s ← get
    match data[s.position / 8]? with
    | none => throw .endOfInput
    | some b =>
      set ({ position := s.position + 8, done := s.done.push b } : State)
      copyStored n

/-- A stored block. Its length is written twice, the second time with all bits turned round. -/
def storedBlock : Step Unit := do
  modify fun s => { s with position := (s.position + 7) / 8 * 8 }
  let length ← bits 16
  let check ← bits 16
  if length + check ≠ 0xFFFF then throw .badStoredLengths
  copyStored length

/-- The codes for bytes and copies that belong to the format itself. -/
def fixedLiterals : Codes :=
  .ofLengths (List.replicate 144 8 ++ List.replicate 112 9 ++ List.replicate 24 7 ++ List.replicate 8 8)

/-- The codes for distances that belong to the format itself. -/
def fixedDistances : Codes := .ofLengths (List.replicate 32 5)

/-- The order in which the lengths of the codes for lengths are written. -/
def lengthOrder : List Nat := [16, 17, 18, 0, 8, 7, 9, 6, 10, 5, 11, 4, 12, 3, 13, 2, 14, 1, 15]

/-- Reads `n` numbers of three bits. -/
def triples : Nat → Step (List Nat)
  | 0 => return []
  | n + 1 => do
    let first ← bits 3
    return first :: (← triples n)

/-- Reads code lengths until there are `total`; those read stand in reverse order. A symbol is a
length, or repeats the length before it or zero. `bound` limits the number of symbols. -/
def codeLengths (codes : Codes) (total : Nat) : Nat → List Nat → Step (List Nat)
  | 0, _ => throw .endOfInput
  | bound + 1, before => do
    if total ≤ before.length then return before.reverse
    -- a set without codes stands for zeros
    let symbol ← if codes.symbols.isEmpty then (do let _ ← bit; pure 0) else decode codes .badCodeLengths
    if symbol < 16 then codeLengths codes total bound (symbol :: before)
    else do
      let (value, count) ←
        if symbol = 16 then do
          let n ← bits 2
          match before with
          | [] => throw .badRepeat
          | last :: _ => pure (last, n + 3)
        else if symbol = 17 then do pure (0, (← bits 3) + 3)
        else do pure (0, (← bits 7) + 11)
      if total < before.length + count then throw .badRepeat
      codeLengths codes total bound (List.replicate count value ++ before)

/-- A block whose codes are described at its front. -/
def describedBlock (bound : Nat) : Step Unit := do
  let literalCount := (← bits 5) + 257
  let distanceCount := (← bits 5) + 1
  let orderCount := (← bits 4) + 4
  if 286 < literalCount ∨ 30 < distanceCount then throw .tooManySymbols
  let given ← triples orderCount
  let pairs := lengthOrder.zip given
  let lengths := (List.range 19).map fun i => (pairs.find? (·.1 == i)).elim 0 (·.2)
  let codes := Codes.ofLengths lengths
  if !codes.fits false then throw .badCodeLengths
  let all ← codeLengths codes (literalCount + distanceCount) (literalCount + distanceCount + 1) []
  if all[256]?.getD 0 = 0 then throw .missingEnd
  let literals := Codes.ofLengths (all.take literalCount)
  if !literals.fits true then throw .badLiteralSet
  let distances := Codes.ofLengths (all.drop literalCount)
  if !distances.fits true then throw .badDistanceSet
  codedBlock literals distances bound

/-- All blocks up to the last one. `bound` limits their number and that of the symbols of each. -/
def blocks (bound : Nat) : Nat → Step Unit
  | 0 => throw .endOfInput
  | n + 1 => do
    let last ← bit
    let kind ← bits 2
    if kind = 0 then storedBlock
    else if kind = 1 then codedBlock fixedLiterals fixedDistances bound
    else if kind = 2 then describedBlock bound
    else throw .badBlockType
    if last = 1 then return ()
    blocks bound n

/-- What compressed data stand for. A symbol takes up one bit at least. -/
def unpack (data : ByteArray) : Except InflateFault ByteArray :=
  let bound := 8 * data.size + 1
  match (blocks bound bound).run data |>.run ⟨0, .empty⟩ with
  | .ok (_, s) => .ok s.done
  | .error fault => .error fault

end VariantForge.Inflate
