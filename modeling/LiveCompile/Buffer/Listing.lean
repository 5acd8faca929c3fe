import LiveCompile.Buffer.Map
import LiveCompile.Text.Printable

/-! The listing of a buffer map for people: its paths, quoted, and how many listeners it
has. -/

namespace LiveCompile

/-- The written form of a character in a quoted path. -/
def quotedChar (c : Char) : List Char :=
  match c with
  | '"' => ['\\', '"']
  | '\\' => ['\\', '\\']
  | '\n' => ['\\', 'n']
  | '\r' => ['\\', 'r']
  | '\t' => ['\\', 't']
  | '\x00' => ['\\', '0']
  | c => if isPrintable c then [c] else "\\u\x7b".toList ++ Nat.toDigits 16 c.toNat ++ ['}']

def Path.quoted (path : Path) : String :=
  "\"" ++ String.ofList ((path.text?.getD "").toList.flatMap quotedChar) ++ "\""

def BufferMap.listing (map : BufferMap) (subscribers : Nat) : String :=
  "BufferMap \x7b paths: [" ++ ", ".intercalate (map.paths.map Path.quoted)
    ++ "], subscribers: " ++ toString subscribers ++ " \x7d"

end LiveCompile
