import FieldQuery.Text
set_option autoImplicit false

namespace FieldQuery.Text

def toBytes (text : Text) : ByteArray := (String.ofList text).toUTF8

def ofBytes? (bytes : ByteArray) : Option Text := bytes.utf8Decode?.map Array.toList

theorem ofBytes?_toBytes (text : Text) : ofBytes? text.toBytes = some text := by
  simp [ofBytes?, toBytes]

def continuations (first : UInt8) : List (UInt8 × UInt8) :=
  if first < 0xc2 then []
  else if first < 0xe0 then [(0x80, 0xbf)]
  else if first = 0xe0 then [(0xa0, 0xbf), (0x80, 0xbf)]
  else if first = 0xed then [(0x80, 0x9f), (0x80, 0xbf)]
  else if first < 0xf0 then [(0x80, 0xbf), (0x80, 0xbf)]
  else if first = 0xf0 then [(0x90, 0xbf), (0x80, 0xbf), (0x80, 0xbf)]
  else if first < 0xf4 then [(0x80, 0xbf), (0x80, 0xbf), (0x80, 0xbf)]
  else if first = 0xf4 then [(0x80, 0x8f), (0x80, 0xbf), (0x80, 0xbf)]
  else []

def matching : List (UInt8 × UInt8) → List UInt8 → Nat
  | (low, high) :: ranges, b :: bytes =>
    if low ≤ b ∧ b ≤ high then matching ranges bytes + 1 else 0
  | _, _ => 0

/-- Reads bytes by rounds that take at least one each. A place where no character can be read takes
the bytes that could begin one. -/
def ofBytesWithin : Nat → List UInt8 → Text
  | 0, _ => []
  | _ + 1, [] => []
  | fuel + 1, b :: bytes =>
    let length := matching (continuations b) bytes + 1
    let c := (ofBytes? ⟨((b :: bytes).take length).toArray⟩).bind List.head?
    c.getD '\ufffd' :: ofBytesWithin fuel (bytes.drop (length - 1))

def ofBytesLossy (bytes : ByteArray) : Text :=
  ofBytesWithin bytes.size bytes.data.toList

end FieldQuery.Text
