import GatewayControl.Ingress
import GatewayControl.Publishing

/-!
What Cloudflare keeps for the control plane and what its client does with it: DNS records,
tunnels and their configurations.

Record numbers are never used twice. Cloudflare reads account and tunnel identifiers without
regard to case, as the control plane does everywhere but in its lock keys.
-/

namespace GatewayControl.Cloudflare

open Json Publishing Ingress

/-! ### Failures -/

/-- What a call can throw: the handlers' own error, the client's, or any other. -/
inductive Failure where
  | api (status : Nat) (message : String) (code : Option String)
  | client (message : String) (status : Nat) (code : Option Int)
  | other (message : String)
deriving DecidableEq

def Failure.isExplicitNotFound : Failure → Bool
  | .client _ status code => status == 404 && code == some 81044
  | _ => false

def safeCloudflareError : Failure → String
  | .client message _ _ => sliceText 500 message
  | _ => "Cloudflare reconciliation failed."

/-! ### Remote state -/

structure RemoteRecord where
  id : Nat
  zone : String
  type : DnsType
  name : String
  content : String
  proxied : Bool
  comment : Option String
deriving DecidableEq

structure RemoteTunnel where
  id : String
  accountIdentifier : String
  name : String
deriving DecidableEq

structure Cloud where
  records : List RemoteRecord := []
  nextRecord : Nat := 0
  tunnels : List RemoteTunnel := []
  /-- The configuration of a tunnel, under its lower-cased identifiers. -/
  configs : String × String → Entries := fun _ => []

/-- The records `listDnsRecordsExact` returns; the other types are skipped. -/
def listDnsRecordsExact (cloud : Cloud) (zone hostname : String) : List RemoteRecord :=
  cloud.records.filter fun r => r.zone = zone && lower r.name == lower hostname

def newRecord (cloud : Cloud) (zone : String) (type : DnsType) (hostname content : String)
    (proxied : Bool) (comment : String) : RemoteRecord :=
  { id := cloud.nextRecord, zone, type, name := hostname, content, proxied,
    comment := some comment }

def addRecord (cloud : Cloud) (r : RemoteRecord) : Cloud :=
  { cloud with records := cloud.records ++ [r], nextRecord := cloud.nextRecord + 1 }

/-- The answer to a record that is not there. -/
def recordNotFound : Failure :=
  .client "Cloudflare request failed (HTTP 404, code 81044)." 404 (some 81044)

def invalidRecord : Failure := .client "Cloudflare returned an invalid DNS record." 502 none

def getDnsRecord (cloud : Cloud) (zone : String) (recordId : Nat) (hostname : String) :
    Except Failure RemoteRecord :=
  match cloud.records.find? fun r => r.zone = zone && r.id = recordId with
  | none => .error recordNotFound
  | some r => if lower r.name == lower hostname then .ok r else .error invalidRecord

def deleteDnsRecord (cloud : Cloud) (zone : String) (recordId : Nat) :
    Except Failure Unit × Cloud :=
  if cloud.records.any fun r => r.zone = zone && r.id = recordId then
    (.ok (), { cloud with
      records := cloud.records.filter fun r => !(r.zone = zone && r.id = recordId) })
  else (.error recordNotFound, cloud)

def tunnelAddress (accountIdentifier tunnelId : String) : String × String :=
  (lower accountIdentifier, lower tunnelId)

def invalidConfiguration : Failure :=
  .client "Cloudflare returned an invalid tunnel configuration." 502 none

def readTunnelConfig (cloud : Cloud) (accountIdentifier tunnelId : String) :
    Except Failure (List Rule) :=
  match getTunnelConfig (cloud.configs (tunnelAddress accountIdentifier tunnelId)) with
  | some rules => .ok rules
  | none => .error invalidConfiguration

def writeTunnelConfig (cloud : Cloud) (accountIdentifier tunnelId : String)
    (ingress : List Rule) : Cloud :=
  let address := tunnelAddress accountIdentifier tunnelId
  { cloud with configs := Function.update cloud.configs address (putTunnelConfig ingress) }

end GatewayControl.Cloudflare
