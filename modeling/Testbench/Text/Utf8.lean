/-!
# Reading bytes as text

Bytes that are not text are shown with U+FFFD in place of every longest stretch that could still have
begun a character, and of every byte that could not.
-/
namespace Testbench.Text

theorem fromUTF8?_toUTF8 (s : String) : String.fromUTF8? s.toUTF8 = some s := by
  rw [String.toUTF8_eq_toByteArray, String.fromUTF8?, dif_pos s.isValidUTF8]
  rfl

/-- Whether a byte continues a character. -/
def continues (b : UInt8) : Bool := 0x80 ≤ b && b ≤ 0xbf

/-- How many bytes a character with this first byte has, and the range its second byte must lie in. -/
def leadOf (b : UInt8) : Option (Nat × UInt8 × UInt8) :=
  if b < 0x80 then some (1, 0x80, 0xbf)
  else if 0xc2 ≤ b && b ≤ 0xdf then some (2, 0x80, 0xbf)
  else if b = 0xe0 then some (3, 0xa0, 0xbf)
  else if b = 0xed then some (3, 0x80, 0x9f)
  else if 0xe1 ≤ b && b ≤ 0xef then some (3, 0x80, 0xbf)
  else if b = 0xf0 then some (4, 0x90, 0xbf)
  else if 0xf1 ≤ b && b ≤ 0xf3 then some (4, 0x80, 0xbf)
  else if b = 0xf4 then some (4, 0x80, 0x8f)
  else none

/-- How many bytes at the front belong together, and whether they make a whole character. -/
def stretch : List UInt8 → Nat × Bool
  | [] => (0, false)
  | b :: rest =>
    match leadOf b with
    | none => (1, false)
    | some (1, _, _) => (1, true)
    | some (n, lo, hi) =>
      match rest with
      | [] => (1, false)
      | second :: more =>
        if second < lo || hi < second then (1, false)
        else
          let tail := (more.take (n - 2)).takeWhile continues
          (2 + tail.length, 2 + tail.length == n)

/-- The bits that a byte adds to a code point. -/
def payload (n : Nat) (b : UInt8) : Nat :=
  if n = 1 then b.toNat else if n = 2 then b.toNat % 32 else if n = 3 then b.toNat % 16
  else b.toNat % 8

/-- The character that a whole stretch of bytes spells. -/
def spelled (bytes : List UInt8) : Char :=
  match bytes with
  | [] => '\ufffd'
  | b :: rest =>
    Char.ofNat (rest.foldl (fun n c => n * 64 + c.toNat % 64) (payload bytes.length b))

/-- Characters of the bytes, malformed stretches replaced, with `fuel` steps at most. -/
def lenientFrom : Nat → List UInt8 → List Char
  | 0, _ => []
  | _, [] => []
  | fuel + 1, bytes =>
    let (n, whole) := stretch bytes
    (if whole then spelled (bytes.take n) else '\ufffd') :: lenientFrom fuel (bytes.drop n)

/-- The bytes as text, malformed stretches replaced. -/
def lenient (bytes : ByteArray) : String :=
  match String.fromUTF8? bytes with
  | some s => s
  | none => String.ofList (lenientFrom bytes.size bytes.data.toList)

end Testbench.Text
