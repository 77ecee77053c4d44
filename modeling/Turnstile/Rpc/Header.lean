import Turnstile.Auth.Metadata
import Turnstile.Bytes

/-!
Headers of a request as they come in. Their values are bytes; only those that are plain ASCII text
become metadata, and none whose name announces binary data.
-/

namespace Turnstile.Rpc

open Turnstile.Text

structure Header where
  name : String
  value : Bytes
  deriving DecidableEq

namespace Header

def of (name : String) (value : Bytes) : Header :=
  ⟨asciiLowerText name, value⟩

/-- Control codes may not stand in a header, except for the tab. -/
def isLegalByte (byte : UInt8) : Bool :=
  byte == 0x09 || (0x20 ≤ byte && byte != 0x7f)

def isBinaryName (name : String) : Bool :=
  "-bin".toList.isSuffixOf (asciiLowerText name).toList

def asciiText? (value : Bytes) : Option String :=
  if value.all isHeaderByte then
    some (String.ofList (value.map fun byte => Char.ofNat byte.toNat))
  else none

def entry? (header : Header) : Option (String × String) :=
  if isBinaryName header.name then none
  else (asciiText? header.value).map fun value => (header.name, value)

end Header

def metadataOfHeaders (headers : List Header) : Auth.Metadata :=
  .ofList (headers.filterMap Header.entry?)

end Turnstile.Rpc
