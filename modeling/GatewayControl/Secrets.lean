import GatewayControl.Base64

/-!
The box that stored secrets are sealed in: a version, an IV, a tag and a ciphertext, separated
by dots. What Node does with bytes is a parameter.
-/

namespace GatewayControl.Secrets

open Base64

abbrev Bytes := List UInt8

def utf8 (value : String) : Bytes := value.toUTF8.data.toList

def urlAlphabet : Alphabet Char where
  digit n := Char.ofNat <|
    if n.val < 26 then 65 + n.val
    else if n.val < 52 then 71 + n.val
    else if n.val < 62 then n.val - 4
    else if n.val = 62 then 45 else 95
  value c :=
    if c.isUpper then some (Fin.ofNat 64 (c.toNat - 65))
    else if c.isLower then some (Fin.ofNat 64 (c.toNat - 71))
    else if c.isDigit then some (Fin.ofNat 64 (c.toNat + 4))
    else if c = '-' then some 62
    else if c = '_' then some 63 else none
  pad := '='
  value_digit := by decide
  value_pad := by decide

def base64url (bytes : Bytes) : List Char := unpadded urlAlphabet bytes

structure Runtime where
  /-- AES-256-GCM: the ciphertext and the tag. -/
  createCipheriv : (key iv plaintext : Bytes) → Bytes × Bytes
  /-- The plaintext, or why there is none. -/
  createDecipheriv : (key iv tag ciphertext : Bytes) → Except String Bytes
  /-- `Buffer.from` skips what is no digit. -/
  fromBase64url : List Char → Bytes
  toUtf8 : Bytes → String

structure SecretBox where
  key : Bytes
  length : key.length = 32

def SecretBox.new (key : Bytes) : Except String SecretBox :=
  if h : key.length = 32 then .ok ⟨key, h⟩
  else .error "The master key must decode to exactly 32 bytes."

variable (r : Runtime) (box : SecretBox)

/-- `iv` is drawn at random. -/
def encrypt (iv : Bytes) (value : String) : String :=
  let sealed := r.createCipheriv box.key iv (utf8 value)
  String.ofList (['.'].intercalate
    ["v1".toList, base64url iv, base64url sealed.2, base64url sealed.1])

def unsupported : String := "Encrypted secret has an unsupported format."

def decrypt (value : String) : Except String String :=
  match value.toList.splitOn '.' with
  | version :: iv :: tag :: ciphertext :: _ =>
      if version ≠ "v1".toList ∨ iv = [] ∨ tag = [] ∨ ciphertext = [] then .error unsupported
      else
        (r.createDecipheriv box.key (r.fromBase64url iv) (r.fromBase64url tag)
          (r.fromBase64url ciphertext)).map r.toUtf8
  | _ => .error unsupported

end GatewayControl.Secrets
