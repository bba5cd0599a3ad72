import CsdlRoutes.Text.Digit

/-!
# UTF-8

Bytes are decoded as UTF-8 as a whole or not at all. Where they are no UTF-8, the fault names the
first sequence that is wrong: the bytes read of it and why it does not go on.

* `decode` reads bytes as a text.
* `firstFault` finds the first wrong sequence, byte by byte.
* `unifyNewlines` gives every line of a text the same end.
-/

namespace CsdlRoutes.Text

/-- Why a sequence of bytes is no character. -/
inductive Utf8Defect where
  | invalidStart
  | invalidContinuation
  | unexpectedEnd
  deriving DecidableEq, Repr

/-- The first wrong sequence of bytes: where it starts, its first byte, and how many bytes of it were
read. -/
structure Utf8Fault where
  start : Nat
  first : UInt8
  length : Nat
  defect : Utf8Defect
  deriving DecidableEq, Repr

/-- A character that is being read. -/
structure Utf8Pending where
  start : Nat
  first : UInt8
  /-- How many bytes were read. -/
  length : Nat
  /-- How many bytes are missing. -/
  missing : Nat
  /-- The least and the greatest byte that may come next. -/
  least : UInt8
  greatest : UInt8

/-- What a first byte calls for: the count of bytes to follow, and the bounds on the next one. The
bounds keep out overlong forms, surrogates and numbers beyond the last character. -/
def utf8Continuation? (b : UInt8) : Option (Nat × UInt8 × UInt8) :=
  if b < 0x80 then some (0, 0x80, 0xbf)
  else if b < 0xc2 then none
  else if b < 0xe0 then some (1, 0x80, 0xbf)
  else if b = 0xe0 then some (2, 0xa0, 0xbf)
  else if b = 0xed then some (2, 0x80, 0x9f)
  else if b < 0xf0 then some (2, 0x80, 0xbf)
  else if b = 0xf0 then some (3, 0x90, 0xbf)
  else if b < 0xf4 then some (3, 0x80, 0xbf)
  else if b = 0xf4 then some (3, 0x80, 0x8f)
  else none

/-- The first wrong sequence from a position on, in the middle of a character or between two. -/
def firstFaultFrom (pending : Option Utf8Pending) (position : Nat) :
    List UInt8 → Option Utf8Fault
  | [] => pending.map fun p => ⟨p.start, p.first, p.length, .unexpectedEnd⟩
  | b :: rest =>
    match pending with
    | none =>
      match utf8Continuation? b with
      | none => some ⟨position, b, 1, .invalidStart⟩
      | some (0, _, _) => firstFaultFrom none (position + 1) rest
      | some (missing, least, greatest) =>
        firstFaultFrom (some ⟨position, b, 1, missing, least, greatest⟩) (position + 1) rest
    | some p =>
      if b < p.least ∨ p.greatest < b then
        some ⟨p.start, p.first, p.length, .invalidContinuation⟩
      else if p.missing ≤ 1 then firstFaultFrom none (position + 1) rest
      else
        firstFaultFrom
          (some ⟨p.start, p.first, p.length + 1, p.missing - 1, 0x80, 0xbf⟩) (position + 1) rest

/-- The first wrong sequence of bytes. -/
def firstFault (bytes : List UInt8) : Option Utf8Fault := firstFaultFrom none 0 bytes

/-- The wording of a defect. -/
def Utf8Defect.wording : Utf8Defect → String
  | .invalidStart => "invalid start byte"
  | .invalidContinuation => "invalid continuation byte"
  | .unexpectedEnd => "unexpected end of data"

/-- The wording of a fault. -/
def Utf8Fault.message (f : Utf8Fault) : String :=
  let place :=
    if f.length ≤ 1 then s!"byte 0x{hexText 2 f.first.toNat} in position {f.start}"
    else s!"bytes in position {f.start}-{f.start + f.length - 1}"
  s!"'utf-8' codec can't decode {place}: {f.defect.wording}"

/-- Reads bytes as a text. -/
def decode (bytes : ByteArray) : Except Utf8Fault String :=
  match String.fromUTF8? bytes with
  | some s => .ok s
  | none => .error ((firstFault bytes.toList).getD ⟨0, 0, 0, .unexpectedEnd⟩)

/-- Ends every line with a line feed, whether a carriage return, a line feed or both ended it. -/
def unifyNewlines : List Char → List Char
  | [] => []
  | '\r' :: '\n' :: rest => '\n' :: unifyNewlines rest
  | '\r' :: rest => '\n' :: unifyNewlines rest
  | c :: rest => c :: unifyNewlines rest

/-- A text without carriage returns is left as it is. -/
theorem unifyNewlines_eq_self {cs : List Char} (h : '\r' ∉ cs) : unifyNewlines cs = cs := by
  fun_induction unifyNewlines cs with
  | case1 => rfl
  | case2 => simp at h
  | case3 => simp at h
  | case4 c rest _ _ ih => rw [ih (fun m => h (List.mem_cons_of_mem _ m))]

/-- What was written as a text is read as the same text. -/
theorem decode_toUTF8 (s : String) : decode s.toUTF8 = .ok s := by
  unfold decode
  have h : String.fromUTF8? s.toUTF8 = some s := by
    simp only [String.fromUTF8?, String.toUTF8_eq_toByteArray]
    rw [dif_pos s.isValidUTF8]
    rfl
  rw [h]

end CsdlRoutes.Text
