/-
  NativeBridge/Text/Utf8.lean
  ===========================
  **UTF-8, byte by byte.**  Native strings and catalog files arrive as bytes.  The
  reader takes them one at a time and remembers, inside a character, which bytes
  may come next.  A refusal says where the refused sequence starts and how many of
  its bytes are certainly wrong; when the bytes merely end too early nothing is
  wrong yet, and the fault says that instead.

  The range of the second byte depends on the first.  That is what keeps out the
  overlong forms, the surrogates and everything past the last code point: after
  `E0` nothing below `A0` follows, after `ED` nothing above `9F`, after `F0`
  nothing below `90`, after `F4` nothing above `8F`.
-/
namespace NativeBridge.Text

def Utf8.encode (cs : List Char) : List UInt8 := cs.flatMap String.utf8EncodeChar

/-- Why bytes are not UTF-8: where the refused sequence starts, and how many of its
    bytes are wrong, `none` when the input ends inside it. -/
structure Utf8.Fault where
  offset : Nat
  wrong : Option Nat
  deriving DecidableEq, Repr

def Utf8.Fault.message (f : Utf8.Fault) : String :=
  match f.wrong with
  | some n => s!"invalid utf-8 sequence of {n} bytes from index {f.offset}"
  | none => s!"incomplete utf-8 byte sequence from index {f.offset}"

namespace Utf8

/-! ### The steps of the reader -/

/-- A character whose bytes are not all read: how many are missing, the range of
    the next one, how many are read, and the value so far. -/
structure Pending where
  missing : Nat
  low : UInt8
  high : UInt8
  seen : Nat
  value : Nat
  deriving DecidableEq, Repr

inductive Step
  | char (c : Char)
  | pending (p : Pending)
  | wrong
  deriving DecidableEq, Repr

def start (b : UInt8) : Step :=
  if b < 0x80 then .char (Char.ofNat b.toNat)
  else if b < 0xC2 then .wrong
  else if b < 0xE0 then .pending ⟨1, 0x80, 0xBF, 1, b.toNat - 0xC0⟩
  else if b < 0xF0 then
    .pending ⟨2, if b = 0xE0 then 0xA0 else 0x80, if b = 0xED then 0x9F else 0xBF, 1,
      b.toNat - 0xE0⟩
  else if b < 0xF5 then
    .pending ⟨3, if b = 0xF0 then 0x90 else 0x80, if b = 0xF4 then 0x8F else 0xBF, 1,
      b.toNat - 0xF0⟩
  else .wrong

def Pending.next (p : Pending) (b : UInt8) : Step :=
  if p.low ≤ b ∧ b ≤ p.high then
    let value := p.value * 64 + (b.toNat - 0x80)
    if p.missing ≤ 1 then .char (Char.ofNat value)
    else .pending ⟨p.missing - 1, 0x80, 0xBF, p.seen + 1, value⟩
  else .wrong

/-! ### Reading -/

/-- Reads the bytes that follow; the character being read starts at `offset`. -/
def decodeFrom (offset : Nat) : Option Pending → List UInt8 → Except Fault (List Char)
  | none, [] => .ok []
  | some _, [] => .error ⟨offset, none⟩
  | none, b :: bs =>
    match start b with
    | .char c => (decodeFrom (offset + 1) none bs).map (c :: ·)
    | .pending p => decodeFrom offset (some p) bs
    | .wrong => .error ⟨offset, some 1⟩
  | some p, b :: bs =>
    match p.next b with
    | .char c => (decodeFrom (offset + p.seen + 1) none bs).map (c :: ·)
    | .pending q => decodeFrom offset (some q) bs
    | .wrong => .error ⟨offset, some p.seen⟩

/-- The text whose bytes these are, or where they stop being a text. -/
def decode (bs : List UInt8) : Except Fault (List Char) := decodeFrom 0 none bs

/-- The character that stands for bytes that are no text. -/
def replacement : Char := '\ufffd'

/-- Reads what can be read and puts one replacement character for each refused
    sequence.  A byte that cannot continue a character may still start one. -/
def decodeLossyFrom : Option Pending → List UInt8 → List Char
  | none, [] => []
  | some _, [] => [replacement]
  | none, b :: bs =>
    match start b with
    | .char c => c :: decodeLossyFrom none bs
    | .pending p => decodeLossyFrom (some p) bs
    | .wrong => replacement :: decodeLossyFrom none bs
  | some p, b :: bs =>
    match p.next b with
    | .char c => c :: decodeLossyFrom none bs
    | .pending q => decodeLossyFrom (some q) bs
    | .wrong =>
      replacement ::
        match start b with
        | .char c => c :: decodeLossyFrom none bs
        | .pending q => decodeLossyFrom (some q) bs
        | .wrong => replacement :: decodeLossyFrom none bs

def decodeLossy (bs : List UInt8) : List Char := decodeLossyFrom none bs

end Utf8

def bytes (s : String) : List UInt8 := Utf8.encode s.toList

end NativeBridge.Text
