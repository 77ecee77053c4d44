import Turnstile.Crypto.ChaCha20
import Turnstile.Crypto.Poly1305

/-!
Sealing: encryption with ChaCha20 and a Poly1305 tag over the encrypted data and over associated
data, which is bound to them without being part of them. What has been changed does not open.
-/

namespace Turnstile.Crypto

open ChaCha20 (Key Nonce)

def tagLength : Nat := 16

def padding (bytes : Bytes) : Bytes :=
  List.replicate ((16 - bytes.length % 16) % 16) 0

def authenticated (associated encrypted : Bytes) : Bytes :=
  associated ++ padding associated ++ encrypted ++ padding encrypted
    ++ Bytes.littleEndian 8 associated.length ++ Bytes.littleEndian 8 encrypted.length

def sealTag (key : Key) (nonce : Nonce) (associated encrypted : Bytes) : Bytes :=
  let subkey := ChaCha20.subkey key nonce
  Poly1305.tag (ChaCha20.block subkey nonce 0) (authenticated associated encrypted)

def cipher (key : Key) (nonce : Nonce) (data : Bytes) : Bytes :=
  ChaCha20.apply (ChaCha20.subkey key nonce) nonce data

def sealBytes (key : Key) (nonce : Nonce) (associated plain : Bytes) : Bytes :=
  let encrypted := cipher key nonce plain
  encrypted ++ sealTag key nonce associated encrypted

def openBytes? (key : Key) (nonce : Nonce) (associated sealedBytes : Bytes) : Option Bytes :=
  if sealedBytes.length < tagLength then none
  else
    let encrypted := sealedBytes.take (sealedBytes.length - tagLength)
    let tag := sealedBytes.drop (sealedBytes.length - tagLength)
    if tag = sealTag key nonce associated encrypted then some (cipher key nonce encrypted)
    else none

end Turnstile.Crypto
