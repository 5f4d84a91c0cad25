/-!
A reproducible source of random words: the ChaCha stream cipher with twelve rounds, keyed from a
64-bit seed by a small congruential generator.
-/

namespace WoundWait

namespace ChaCha

abbrev Block := Vector UInt32 16

abbrev Key := Vector UInt32 8

def rotateLeft (word : UInt32) (places : UInt32) : UInt32 :=
  (word <<< places) ||| (word >>> (32 - places))

def quarterRound (block : Block) (a b c d : Fin 16) : Block :=
  let block := block.set a (block[a] + block[b])
  let block := block.set d (rotateLeft (block[d] ^^^ block[a]) 16)
  let block := block.set c (block[c] + block[d])
  let block := block.set b (rotateLeft (block[b] ^^^ block[c]) 12)
  let block := block.set a (block[a] + block[b])
  let block := block.set d (rotateLeft (block[d] ^^^ block[a]) 8)
  let block := block.set c (block[c] + block[d])
  block.set b (rotateLeft (block[b] ^^^ block[c]) 7)

def doubleRound (block : Block) : Block :=
  let block := quarterRound block 0 4 8 12
  let block := quarterRound block 1 5 9 13
  let block := quarterRound block 2 6 10 14
  let block := quarterRound block 3 7 11 15
  let block := quarterRound block 0 5 10 15
  let block := quarterRound block 1 6 11 12
  let block := quarterRound block 2 7 8 13
  quarterRound block 3 4 9 14

def initialBlock (key : Key) (counter : UInt64) : Block :=
  #v[0x61707865, 0x3320646e, 0x79622d32, 0x6b206574,
    key[0], key[1], key[2], key[3], key[4], key[5], key[6], key[7],
    counter.toUInt32, (counter >>> 32).toUInt32, 0, 0]

def keystream (key : Key) (counter : UInt64) : Block :=
  let initial := initialBlock key counter
  let mixed := (List.range 6).foldl (fun block _ => doubleRound block) initial
  Vector.ofFn fun place => initial[place] + mixed[place]

def nextSeedState (state : UInt64) : UInt64 :=
  state * 6364136223846793005 + 11634580027462260723

def seedWord (state : UInt64) : UInt32 :=
  let folded := (((state >>> 18) ^^^ state) >>> 27).toUInt32
  let places := (state >>> 59).toUInt32
  if places = 0 then folded else (folded >>> places) ||| (folded <<< (32 - places))

def seedStates : Nat → UInt64 → List UInt64
  | 0, _ => []
  | count + 1, state =>
      let next := nextSeedState state
      next :: seedStates count next

def keyOfSeed (seed : UInt64) : Key :=
  let words := (seedStates 8 seed).map seedWord
  Vector.ofFn fun place => words.getD place 0

end ChaCha

structure RandomSource where
  key : ChaCha.Key
  counter : UInt64
  words : List UInt32

namespace RandomSource

def ofSeed (seed : UInt64) : RandomSource :=
  { key := ChaCha.keyOfSeed seed, counter := 0, words := [] }

def nextWord (source : RandomSource) : UInt32 × RandomSource :=
  match source.words with
  | word :: rest => (word, { source with words := rest })
  | [] =>
      let block := ChaCha.keystream source.key source.counter
      (block[0], { source with counter := source.counter + 1, words := block.toList.drop 1 })

def nextLong (source : RandomSource) : UInt64 × RandomSource :=
  let low := source.nextWord
  let high := low.2.nextWord
  ((high.1.toUInt64 <<< 32) ||| low.1.toUInt64, high.2)

/-- True with a given probability. Certainty uses up no words. -/
def chance (source : RandomSource) (probability : Float) : Bool × RandomSource :=
  if probability == 1.0 then (true, source)
  else
    let drawn := source.nextLong
    (drawn.1 < (probability * 18446744073709551616.0).toUInt64, drawn.2)

end RandomSource

end WoundWait
