import SchemaLint.Text.Basic

/-!
# UTF-8

Bytes are decoded to text, or refused with the place and the kind of the first fault. A fault covers
the bytes of a sequence up to the first byte that cannot continue it.
-/

namespace SchemaLint.Text.Utf8

/-- What is wrong with a sequence of bytes. -/
inductive FaultKind where
  | start
  | continuation
  | truncated
  deriving DecidableEq, Repr

/-- The first fault of a sequence of bytes: where it starts, its bytes and its kind. -/
structure Fault where
  position : Nat
  bytes : List UInt8
  kind : FaultKind
  deriving DecidableEq, Repr

/-- Wording of a kind of fault. -/
def FaultKind.message : FaultKind → String
  | .start => "invalid start byte"
  | .continuation => "invalid continuation byte"
  | .truncated => "unexpected end of data"

/-- Wording of a fault. -/
def Fault.message (f : Fault) : String :=
  let place :=
    match f.bytes with
    | [b] => "byte 0x" ++ String.ofList (Hex.padded 2 b.toNat) ++ s!" in position {f.position}"
    | _ => s!"bytes in position {f.position}-{f.position + f.bytes.length - 1}"
  "'utf-8' codec can't decode " ++ place ++ ": " ++ f.kind.message

/-- Number of bytes of a sequence by its first byte, 0 for a byte that starts none. -/
def sequenceLength (first : UInt8) : Nat :=
  if first < 0x80 then 1
  else if first < 0xc2 then 0
  else if first < 0xe0 then 2
  else if first < 0xf0 then 3
  else if first < 0xf5 then 4
  else 0

/-- `b` may follow `first` as the second byte of a sequence. -/
def mayFollow (first b : UInt8) : Bool :=
  0x80 ≤ b && b < 0xc0 &&
    !(first == 0xe0 && b < 0xa0) && !(first == 0xed && 0xa0 ≤ b) &&
    !(first == 0xf0 && b < 0x90) && !(first == 0xf4 && 0x90 ≤ b)

/-- Number of bytes of `rest` that continue a sequence from `first`, at most `wanted`. -/
def continued (first : UInt8) (wanted : Nat) (rest : List UInt8) : Nat :=
  match rest.take wanted with
  | [] => 0
  | b :: more =>
    if mayFollow first b then 1 + (more.takeWhile fun c => 0x80 ≤ c && c < 0xc0).length else 0

/-- The code point of a complete sequence. -/
def codePoint : List UInt8 → Nat
  | [a] => a.toNat
  | [a, b] => (a.toNat % 0x20) * 0x40 + b.toNat % 0x40
  | [a, b, c] => ((a.toNat % 0x10) * 0x40 + b.toNat % 0x40) * 0x40 + c.toNat % 0x40
  | [a, b, c, d] =>
    (((a.toNat % 8) * 0x40 + b.toNat % 0x40) * 0x40 + c.toNat % 0x40) * 0x40 + d.toNat % 0x40
  | _ => 0

/-- Decodes the bytes from `position` on, at most `fuel` sequences. -/
def decodeFrom : Nat → Nat → List UInt8 → Except Fault (List Char)
  | _, _, [] => .ok []
  | 0, _, _ :: _ => .ok []
  | fuel + 1, position, first :: rest =>
    let wanted := sequenceLength first - 1
    let have_ := continued first wanted rest
    if sequenceLength first = 0 then .error ⟨position, [first], .start⟩
    else if have_ = wanted then
      (decodeFrom fuel (position + wanted + 1) (rest.drop wanted)).map
        (Char.ofNat (codePoint (first :: rest.take wanted)) :: ·)
    else
      .error ⟨position, first :: rest.take have_,
        if rest.length = have_ then .truncated else .continuation⟩

/-- The text that the bytes encode. -/
def decode (bytes : List UInt8) : Except Fault String :=
  (decodeFrom bytes.length 0 bytes).map String.ofList

end SchemaLint.Text.Utf8
