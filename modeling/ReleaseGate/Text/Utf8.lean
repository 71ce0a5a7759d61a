/-!
# Bytes and text

Files and the output of commands are bytes. `decode` reads them as UTF-8 and refuses anything else; `decodeLossy` puts a
replacement character for each longest start of a character that is not completed, and `encode` writes a text.
-/

namespace ReleaseGate.Text.Utf8

/-- The bytes of a text. -/
def encode (s : String) : List UInt8 := s.toUTF8.toList

/-- What the first byte of a character says: the number of bytes to follow, the bits it carries, and the bounds for the byte after
it, which exclude overlong forms, surrogates and code points past the last. -/
structure Lead where
  following : Nat
  bits : Nat
  low : Nat
  high : Nat

/-- The reading of a byte as the first of a character of two or more bytes. -/
def lead? (b : UInt8) : Option Lead :=
  let n := b.toNat
  if 0xc2 ≤ n && n ≤ 0xdf then some ⟨1, n - 0xc0, 0x80, 0xbf⟩
  else if n == 0xe0 then some ⟨2, 0, 0xa0, 0xbf⟩
  else if n == 0xed then some ⟨2, 0xd, 0x80, 0x9f⟩
  else if 0xe1 ≤ n && n ≤ 0xef then some ⟨2, n - 0xe0, 0x80, 0xbf⟩
  else if n == 0xf0 then some ⟨3, 0, 0x90, 0xbf⟩
  else if 0xf1 ≤ n && n ≤ 0xf3 then some ⟨3, n - 0xf0, 0x80, 0xbf⟩
  else if n == 0xf4 then some ⟨3, 4, 0x80, 0x8f⟩
  else none

/-- Reads the rest of a character: the bits so far, how many bytes are still to come, and the bounds for the next one. The
answer is the character, if it is complete, and how many bytes belong to it. -/
def continueChar (bits : Nat) : Nat → Nat → Nat → List UInt8 → Option Char × Nat
  | 0, _, _, _ => (some (Char.ofNat bits), 0)
  | _ + 1, _, _, [] => (none, 0)
  | k + 1, low, high, b :: rest =>
    if low ≤ b.toNat && b.toNat ≤ high then
      let (c, used) := continueChar (bits * 64 + (b.toNat - 0x80)) k 0x80 0xbf rest
      (c, used + 1)
    else (none, 0)

/-- The first character of some bytes, `none` when they begin with none, and the number of bytes after the first that belong to
it. -/
def step (b : UInt8) (rest : List UInt8) : Option Char × Nat :=
  if b.toNat < 0x80 then (some (Char.ofNat b.toNat), 0)
  else
    match lead? b with
    | some l => continueChar l.bits l.following l.low l.high rest
    | none => (none, 0)

/-- The characters of some bytes, `none` for each stretch that is none; `skip` bytes still belong to the character read last. -/
def scan (skip : Nat) : List UInt8 → List (Option Char)
  | [] => []
  | b :: rest =>
    match skip with
    | k + 1 => scan k rest
    | 0 =>
      let (c, used) := step b rest
      c :: scan used rest

/-- The text that some bytes encode, if they encode one. -/
def decode (bytes : List UInt8) : Option String :=
  ((scan 0 bytes).mapM id).map String.ofList

/-- The text that some bytes encode, with a replacement character for each stretch that encodes nothing. -/
def decodeLossy (bytes : List UInt8) : String :=
  String.ofList ((scan 0 bytes).map (·.getD '\ufffd'))

end ReleaseGate.Text.Utf8
