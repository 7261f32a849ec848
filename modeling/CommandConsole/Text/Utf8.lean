/-!
# Reading UTF-8

Decoding stops at the first byte sequence that is no character, and tells its place and what is
wrong with it: a byte that starts no character, a character that another byte breaks off, or one
that the end of the data breaks off. A broken character is reported together with those of its
bytes that were still well formed.
-/

namespace CommandConsole.Text.Utf8

/-- What is wrong with a byte sequence. -/
inductive Defect where
  | invalidStart
  | invalidContinuation
  | unexpectedEnd
  deriving DecidableEq, Repr

/-- Bytes that are no character: where they start, how many there are, the first of them. -/
structure Flaw where
  position : Nat
  count : Nat
  byte : UInt8
  defect : Defect
  deriving DecidableEq, Repr

/-- The message of a defect. -/
def Defect.message : Defect → String
  | .invalidStart => "invalid start byte"
  | .invalidContinuation => "invalid continuation byte"
  | .unexpectedEnd => "unexpected end of data"

/-- How a character that starts with a given byte goes on: how many bytes follow, the bounds of
the first of these, and the bits that the starting byte gives. -/
structure Lead where
  following : Nat
  low : Nat
  high : Nat
  bits : Nat

/-- What a starting byte tells. Overlong forms, surrogates and code points past the last one are
excluded by the bounds of the second byte. -/
def lead? (b : Nat) : Option Lead :=
  if b < 0x80 then some ⟨0, 0, 0, b⟩
  else if 0xc2 ≤ b ∧ b ≤ 0xdf then some ⟨1, 0x80, 0xbf, b % 0x20⟩
  else if b = 0xe0 then some ⟨2, 0xa0, 0xbf, 0⟩
  else if b = 0xed then some ⟨2, 0x80, 0x9f, 0xd⟩
  else if 0xe1 ≤ b ∧ b ≤ 0xef then some ⟨2, 0x80, 0xbf, b % 0x10⟩
  else if b = 0xf0 then some ⟨3, 0x90, 0xbf, 0⟩
  else if 0xf1 ≤ b ∧ b ≤ 0xf3 then some ⟨3, 0x80, 0xbf, b % 8⟩
  else if b = 0xf4 then some ⟨3, 0x80, 0x8f, 4⟩
  else none

/-- The rest of a character: `expected` further bytes, the next one between `low` and `high`.
Gives the code point and the bytes after it, or how many further bytes were well formed and
whether the data ended. -/
def tail :
    (expected low high value taken : Nat) → List UInt8 → Except (Nat × Bool) (Nat × List UInt8)
  | 0, _, _, value, _, bytes => .ok (value, bytes)
  | _ + 1, _, _, _, taken, [] => .error (taken, true)
  | expected + 1, low, high, value, taken, b :: bytes =>
    if low ≤ b.toNat ∧ b.toNat ≤ high then
      tail expected 0x80 0xbf (value * 64 + b.toNat % 64) (taken + 1) bytes
    else .error (taken, false)

theorem tail_length {expected low high value taken : Nat} {bytes rest : List UInt8} {v : Nat}
    (h : tail expected low high value taken bytes = .ok (v, rest)) :
    rest.length ≤ bytes.length := by
  induction expected generalizing low high value taken bytes with
  | zero => simp only [tail, Except.ok.injEq, Prod.mk.injEq] at h; simp [h.2]
  | succ n ih =>
    cases bytes with
    | nil => simp [tail] at h
    | cons b bytes =>
      simp only [tail] at h
      split at h
      · have := ih h; simp; omega
      · simp at h

/-- The characters of `bytes`, of which the first is at `position`, as far as they are well formed,
and the flaw that stopped the reading. -/
def scan (position : Nat) : List UInt8 → List Char × Option Flaw
  | [] => ([], none)
  | b :: bytes =>
    match lead? b.toNat with
    | none => ([], some ⟨position, 1, b, .invalidStart⟩)
    | some l =>
      match h : tail l.following l.low l.high l.bits 1 bytes with
      | .ok (value, rest) =>
        have := tail_length h
        let (cs, flaw) := scan (position + l.following + 1) rest
        (Char.ofNat value :: cs, flaw)
      | .error (taken, ended) =>
        ([], some ⟨position, taken, b, if ended then .unexpectedEnd else .invalidContinuation⟩)
  termination_by bytes => bytes.length

/-- The text of `bytes`, or the first flaw. -/
def decode (bytes : List UInt8) : Except Flaw (List Char) :=
  match scan 0 bytes with
  | (cs, none) => .ok cs
  | (_, some flaw) => .error flaw

end CommandConsole.Text.Utf8
