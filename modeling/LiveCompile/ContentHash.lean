import LiveCompile.Hash.Xxh3

/-! Fingerprints of chunk payloads. A fingerprint is a token that is only ever compared
with another; producers that have none of their own take the XXH3 hash of the payload. -/

namespace LiveCompile

structure ContentHash where
  token : String
  deriving DecidableEq, Repr, Inhabited

namespace ContentHash

/-- The fingerprint of a payload: 128 bits as 32 hexadecimal digits. -/
def ofBytes (data : ByteArray) : ContentHash := ⟨(Xxh3.hash data).text⟩

def ofText (text : String) : ContentHash := ofBytes text.toUTF8

/-- The order of the tokens' octets, which is that of their characters. -/
def compare (a b : ContentHash) : Ordering := compareOfLessAndEq a.token b.token

/-- The first eight characters, and two dots if there are more. -/
def abbreviated (hash : ContentHash) : String :=
  let start := String.ofList (hash.token.toList.take 8)
  if start.utf8ByteSize < hash.token.utf8ByteSize then start ++ ".." else start

def debugText (hash : ContentHash) : String := "ContentHash(" ++ hash.abbreviated ++ ")"

end ContentHash

end LiveCompile
