import BlockHydro.Decimal.Binary64
import BlockHydro.Setup.Document

/-!
# Settings as bytes

Documents are stored in the concise binary object representation.  An item
begins with a byte that holds its kind in three bits and a detail in five; the
detail is the item's argument or says how many bytes of argument follow.  The
argument is the value of a whole number and the length of anything longer.

`encode` writes every number in the fewest bytes that keep it.  `decode` reads
the item at the start of the bytes; lengths have to be given in advance, and
tags are passed over.
-/

namespace BlockHydro

/-- A binary floating-point format, by the widths of its exponent and fraction. -/
structure FloatFormat where
  exponentBits : Nat
  fractionBits : Nat

namespace FloatFormat

/-- Sixteen bits. -/
def half : FloatFormat := ⟨5, 10⟩

/-- Thirty-two bits. -/
def single : FloatFormat := ⟨8, 23⟩

/-- The biased exponent of infinity and of what is no number. -/
def topExponent (format : FloatFormat) : Nat := Nat.pow 2 format.exponentBits - 1

/-- The biased exponent of one. -/
def bias (format : FloatFormat) : Nat := Nat.pow 2 (format.exponentBits - 1) - 1

/-- The double that a word of the format stands for. -/
def widen (format : FloatFormat) (word : Nat) : Float :=
  let fraction := word % Nat.pow 2 format.fractionBits
  let biased := word / Nat.pow 2 format.fractionBits % Nat.pow 2 format.exponentBits
  let negative := word / Nat.pow 2 (format.fractionBits + format.exponentBits) % 2 = 1
  let scaled (significand biased : Nat) : Float :=
    Float.scaleB significand.toFloat ((biased : Int) - (format.bias + format.fractionBits : Nat))
  let size :=
    if biased = format.topExponent then if fraction = 0 then 1.0 / 0.0 else 0.0 / 0.0
    else if biased = 0 then scaled fraction 1
    else scaled (Nat.pow 2 format.fractionBits + fraction) biased
  if negative then -size else size

/-- The word whose leading bits are those of a double. -/
def truncate (format : FloatFormat) (x : Float) : Nat :=
  let bits := x.toBits.toNat
  let fraction := bits % Nat.pow 2 Binary64.fractionBits
  let biased := bits / Nat.pow 2 Binary64.fractionBits % Nat.pow 2 11
  let dropped := Binary64.fractionBits - format.fractionBits
  let exponent : Int := (format.bias + biased : Nat) - 1023
  let size :=
    if biased = Nat.pow 2 11 - 1 then
      format.topExponent * Nat.pow 2 format.fractionBits + fraction / Nat.pow 2 dropped
    else if exponent < 1 then
      (Nat.pow 2 Binary64.fractionBits + fraction) / Nat.pow 2 (dropped + (1 - exponent).toNat)
    else
      exponent.toNat * Nat.pow 2 format.fractionBits + fraction / Nat.pow 2 dropped
  bits / Nat.pow 2 63 * Nat.pow 2 (format.fractionBits + format.exponentBits) + size

/-- The word of a double that the format holds exactly. -/
def narrow? (format : FloatFormat) (x : Float) : Option Nat :=
  let word := format.truncate x
  if (format.widen word).toBits = x.toBits then some word else none

end FloatFormat

namespace Cbor

/-- The low bytes of a number, most significant first. -/
def bigEndian : Nat → Nat → List UInt8
  | 0, _ => []
  | size + 1, value => UInt8.ofNat (value / Nat.pow 256 size) :: bigEndian size value

/-- The number that bytes spell, most significant first. -/
def ofBigEndian (bytes : List UInt8) : Nat :=
  bytes.foldl (fun value byte => 256 * value + byte.toNat) 0

/-- As many bytes as asked for. -/
@[simp] theorem length_bigEndian (size value : Nat) : (bigEndian size value).length = size := by
  induction size with
  | zero => rfl
  | succ size shorter => simp [bigEndian, shorter]

/-- Bytes read after others count behind them. -/
theorem foldl_bigEndian (size value before : Nat) :
    (bigEndian size value).foldl (fun value byte => 256 * value + byte.toNat) before =
      before * Nat.pow 256 size + value % Nat.pow 256 size := by
  induction size generalizing before with
  | zero => simp [bigEndian, Nat.mod_one]
  | succ size shorter =>
    have split := Nat.mod_pow_succ (x := value) (b := 256) (k := size)
    simp only [bigEndian, List.foldl_cons, shorter, UInt8.toNat_ofNat', Nat.pow_eq] at split ⊢
    rw [split, Nat.pow_succ (n := 256), Nat.add_mul, Nat.mul_comm 256 before, Nat.mul_assoc,
      Nat.mul_comm 256, Nat.add_comm (value % 256 ^ size), ← Nat.add_assoc,
      Nat.mul_comm (256 ^ size) (value / 256 ^ size % 256)]

/-- A number that fits is read back. -/
theorem ofBigEndian_bigEndian {size value : Nat} (fits : value < Nat.pow 256 size) :
    ofBigEndian (bigEndian size value) = value := by
  rw [ofBigEndian, foldl_bigEndian, Nat.zero_mul, Nat.zero_add, Nat.mod_eq_of_lt fits]

/-- The kinds of items. -/
inductive Kind where
  | whole
  /-- A whole number below zero. -/
  | negative
  | bytes
  | text
  | list
  | table
  /-- A remark on the item that follows. -/
  | tag
  /-- A flag, nothing, or a real number. -/
  | simple
  deriving DecidableEq, Repr

/-- The number of a kind. -/
def Kind.code : Kind → Nat
  | .whole => 0
  | .negative => 1
  | .bytes => 2
  | .text => 3
  | .list => 4
  | .table => 5
  | .tag => 6
  | .simple => 7

/-- The kind of a number below eight. -/
def Kind.ofCode : Nat → Kind
  | 0 => .whole
  | 1 => .negative
  | 2 => .bytes
  | 3 => .text
  | 4 => .list
  | 5 => .table
  | 6 => .tag
  | _ => .simple

/-- A kind is found under its number. -/
theorem Kind.ofCode_code (kind : Kind) : ofCode kind.code = kind := by
  cases kind <;> rfl

/-- The first byte of an item. -/
def firstByte (kind : Kind) (detail : Nat) : UInt8 := UInt8.ofNat (32 * kind.code + detail)

/-- The start of an item with an argument. -/
def encodeHead (kind : Kind) (argument : Nat) : List UInt8 :=
  if argument < 24 then [firstByte kind argument]
  else if argument < Nat.pow 2 8 then firstByte kind 24 :: bigEndian 1 argument
  else if argument < Nat.pow 2 16 then firstByte kind 25 :: bigEndian 2 argument
  else if argument < Nat.pow 2 32 then firstByte kind 26 :: bigEndian 4 argument
  else firstByte kind 27 :: bigEndian 8 argument

/-- A whole number. -/
def encodeWhole : Int → List UInt8
  | .ofNat value => encodeHead .whole value
  | .negSucc value => encodeHead .negative value

/-- A text. -/
def encodeText (text : String) : List UInt8 :=
  let bytes := text.toUTF8.toList
  encodeHead .text bytes.length ++ bytes

/-- A double, in the shortest format that holds it. -/
def encodeReal (x : Float) : List UInt8 :=
  match FloatFormat.half.narrow? x, FloatFormat.single.narrow? x with
  | some word, _ => firstByte .simple 25 :: bigEndian 2 word
  | none, some word => firstByte .simple 26 :: bigEndian 4 word
  | none, none => firstByte .simple 27 :: bigEndian 8 x.toBits.toNat

mutual

/-- The bytes of a document. -/
def encode : Document Float → List UInt8
  | .null => [firstByte .simple 22]
  | .flag value => [firstByte .simple (if value then 21 else 20)]
  | .whole value => encodeWhole value
  | .real value => encodeReal value
  | .text value => encodeText value
  | .list items => encodeHead .list items.length ++ encodeItems items
  | .table entries => encodeHead .table entries.length ++ encodeEntries entries

/-- The bytes of documents in a row. -/
def encodeItems : List (Document Float) → List UInt8
  | [] => []
  | item :: items => encode item ++ encodeItems items

/-- The bytes of keys and values in turn. -/
def encodeEntries : List (String × Document Float) → List UInt8
  | [] => []
  | (key, value) :: entries => encodeText key ++ encode value ++ encodeEntries entries

end

/-- A reader takes what it needs from the front of the bytes. -/
abbrev Reader := StateT (List UInt8) Option

/-- The start of an item. -/
structure Head where
  kind : Kind
  detail : Nat
  argument : Nat

/-- Take a number of bytes. -/
def takeBytes (count : Nat) : Reader (List UInt8) := fun bytes =>
  let taken := bytes.take count
  if taken.length = count then some (taken, bytes.drop count) else none

/-- Read the start of an item. -/
def readHead : Reader Head := do
  let first := ofBigEndian (← takeBytes 1)
  let kind := Kind.ofCode (first / 32)
  let detail := first % 32
  if detail < 24 then
    return ⟨kind, detail, detail⟩
  else if detail < 28 then
    return ⟨kind, detail, ofBigEndian (← takeBytes (Nat.pow 2 (detail - 24)))⟩
  else
    failure

/-- Read a text of a number of bytes. -/
def readText (count : Nat) : Reader String := do
  let bytes ← takeBytes count
  match String.fromUTF8? ⟨bytes.toArray⟩ with
  | some text => return text
  | none => failure

/-- Read a key; it has to be a text. -/
def readKey : Reader String := do
  let head ← readHead
  if head.kind = .text then readText head.argument else failure

/-- Read a number of items. -/
def readMany {α : Type} (read : Reader α) : Nat → Reader (List α)
  | 0 => return []
  | count + 1 => do
    let first ← read
    return first :: (← readMany read count)

/-- The value of an item without parts. -/
def simple? (head : Head) : Option (Document Float) :=
  match head.detail with
  | 20 => some (.flag false)
  | 21 => some (.flag true)
  | 22 => some .null
  | 25 => some (.real (FloatFormat.half.widen head.argument))
  | 26 => some (.real (FloatFormat.single.widen head.argument))
  | 27 => some (.real (Float.ofBits head.argument.toUInt64))
  | _ => none

/-- Read an item within a depth of nesting. -/
def readItem : Nat → Reader (Document Float)
  | 0 => failure
  | depth + 1 => do
    let head ← readHead
    match head.kind with
    | .whole => return .whole head.argument
    | .negative => return .whole (Int.negSucc head.argument)
    | .bytes => return .list ((← takeBytes head.argument).map fun byte => .whole byte.toNat)
    | .text => return .text (← readText head.argument)
    | .list => return .list (← readMany (readItem depth) head.argument)
    | .table =>
      let readEntry : Reader (String × Document Float) := do
        let key ← readKey
        return (key, ← readItem depth)
      return .table (← readMany readEntry head.argument)
    | .tag => readItem depth
    | .simple => StateT.lift (simple? head)

/-- Read the document at the start of the bytes; it cannot be nested deeper than they are many. -/
def decode (bytes : List UInt8) : Option (Document Float) :=
  (readItem bytes.length).run' bytes

end Cbor

end BlockHydro
