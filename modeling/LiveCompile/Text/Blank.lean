/-! White space around a text. -/

namespace LiveCompile

/-- White space by Unicode. -/
def isWhitespace (c : Char) : Bool :=
  (9 ≤ c.toNat && c.toNat ≤ 13) || c.toNat = 0x20 || c.toNat = 0x85 || c.toNat = 0xA0
    || c.toNat = 0x1680 || (0x2000 ≤ c.toNat && c.toNat ≤ 0x200A) || c.toNat = 0x2028
    || c.toNat = 0x2029 || c.toNat = 0x202F || c.toNat = 0x205F || c.toNat = 0x3000

/-- A text without white space around it. -/
def trimmed (text : String) : String :=
  let front := text.toList.dropWhile isWhitespace
  String.ofList ((front.reverse.dropWhile isWhitespace).reverse)

end LiveCompile
