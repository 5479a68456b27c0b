import GatewayControl.Jsonb
import GatewayControl.Secrets
import GatewayControl.Text
import Mathlib.Data.List.DropRight

/-!
Requests to apply a restore, as the control plane signs them and as the supervisor's shell script
reads them. Both take the key from one file. A request file is the list of its bytes, a character
each.
-/

namespace GatewayControl.RecoverySupervisor

open Text Secrets

/-- HMAC-SHA-256 in hexadecimal. -/
structure Hmac where
  digest : (key : Bytes) → (message : List Char) → List Char
  length : ∀ key message, (digest key message).length = 64
  hex : ∀ key message, ∀ c ∈ digest key message, c.isDigit = true ∨ 'a' ≤ c ∧ c ≤ 'f'

/-- What depends on the locale: the texts that `.*` matches, and the length of a parameter. -/
structure Shell where
  anything : List Char → Bool
  characters : Bytes → ℕ

/-! ### The control plane -/

/-- The secret that `loadConfig` takes from the file. -/
def serverSecret (toUtf8 : Bytes → String) (file : Bytes) : Except String Bytes :=
  let secret := utf8 (String.ofList (trimBoth isJsSpace (toUtf8 file).toList))
  if secret.length < 32 then
    .error ("GATEWAY_RECOVERY_REQUEST_SECRET_FILE must contain at least 32 bytes when the " ++
      "recovery supervisor is enabled.")
  else .ok secret

def unsignedFields (restoreId : String) : List (String × Json) :=
  [("version", .num (some 1) "1"), ("operation", .str "apply-system-restore"),
    ("restoreId", .str restoreId)]

def unsigned (restoreId : String) : List Char := (Json.obj (unsignedFields restoreId)).stringify

/-- The file that `requestApply` publishes. -/
def publishedRequest (hmac : Hmac) (secret : Bytes) (restoreId : String) : List Char :=
  let signature := String.ofList (hmac.digest secret (unsigned restoreId))
  (Json.obj (unsignedFields restoreId ++ [("signature", .str signature)])).stringify ++ ['\n']

/-! ### The supervisor -/

/-- `$(…)` leaves out null bytes and the newlines at the end. -/
def commandSubstitution {α : Type*} [DecidableEq α] (null newline : α) (output : List α) : List α :=
  (output.filter (· ≠ null)).rdropWhile (· = newline)

def supervisorSecret (shell : Shell) (file : Bytes) : Except String Bytes :=
  let secret := commandSubstitution 0 10 file
  if shell.characters secret < 32 then
    .error "The recovery request secret must contain at least 32 characters."
  else .ok secret

/-- `sed -n s/…/\1/p`. A newline more or less at the end makes no difference to what reads it. -/
def sed (substitute : List Char → Option (List Char)) (text : List Char) : List Char :=
  (text.splitOn '\n').flatMap fun line => ((substitute line).map (· ++ ['\n'])).getD []

def isIdCharacter (c : Char) : Bool := isHex c || c = '-'

def isLowerHex (c : Char) : Bool := c.isDigit || ('a' ≤ c && c ≤ 'f')

def beforeId : List Char :=
  "\x7b\"version\":1,\"operation\":\"apply-system-restore\",\"restoreId\":\"".toList

def beforeSignature : List Char := ",\"signature\":\"".toList

def restoreIdOf (line : List Char) : Option (List Char) := do
  let rest ← line.dropPrefix? beforeId
  let afterId ← (rest.dropWhile isIdCharacter).dropPrefix? ('"' :: beforeSignature)
  if afterId.dropWhile isLowerHex = ['"', '\x7d'] then some (rest.takeWhile isIdCharacter) else none

/-- The signature stands at the end of the line, so the line is read from there. -/
def signatureOf (shell : Shell) (line : List Char) : Option (List Char) := do
  let rest ← line.reverse.dropPrefix? ['\x7d', '"']
  let front ← (rest.dropWhile isLowerHex).dropPrefix? beforeSignature.reverse
  if shell.anything front.reverse then some (rest.takeWhile isLowerHex).reverse else none

/-- The pattern of the `case`. -/
def fixedSchema (restoreId : List Char) : Bool :=
  restoreId.length = 36 && [8, 13, 18, 23].all fun i => restoreId[i]? == some '-'

def unsignedTemplate (restoreId : List Char) : List Char := beforeId ++ restoreId ++ ['"', '\x7d']

/-- The checks on a request file; the restore that is applied. -/
def claimedRequest (hmac : Hmac) (shell : Shell) (secret : Bytes) (contents : List Char) :
    Except String (List Char) :=
  if 512 < contents.length then .error "The pending recovery request is oversized."
  else
    let request := commandSubstitution '\x00' '\n' contents
    let restoreId := commandSubstitution '\x00' '\n' (sed restoreIdOf request)
    let signature := commandSubstitution '\x00' '\n' (sed (signatureOf shell) request)
    if !fixedSchema restoreId then
      .error "The claimed recovery request has an invalid fixed schema."
    else if !(restoreId.splitOn '\n').any (matchesClasses uuidClasses) then
      .error "The claimed recovery request restore ID is invalid."
    else if signature.length = 64 ∧
        signature = hmac.digest secret (unsignedTemplate restoreId) then .ok restoreId
    else .error "The claimed recovery request signature is invalid."

end GatewayControl.RecoverySupervisor
