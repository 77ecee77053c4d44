import Turnstile.Text.Decimal
import Turnstile.Text.Hex
import Turnstile.Text.Scan

/-!
Addresses to listen on: an internet address of either version, and a port. In the text of a
version 6 address the longest row of zero groups, if there is more than one, is left out; brackets
keep the address apart from the port, and a scope can follow it after a percent sign.
-/

namespace Turnstile.Config

open Turnstile.Text

structure Address4 where
  parts : List UInt8
  length_parts : parts.length = 4
  deriving DecidableEq

def Address4.ofParts? (parts : List UInt8) : Option Address4 :=
  if length_parts : parts.length = 4 then some ⟨parts, length_parts⟩ else none

structure Address6 where
  groups : List UInt16
  length_groups : groups.length = 8
  deriving DecidableEq

inductive SocketAddress where
  | v4 (address : Address4) (port : UInt16)
  | v6 (address : Address6) (scope : UInt32) (port : UInt16)
  deriving DecidableEq

/-! ## Writing -/

def joined (mark : Char) : List (List Char) → List Char
  | [] => []
  | [part] => part
  | part :: rest => part ++ mark :: joined mark rest

def Address4.textChars (address : Address4) : List Char :=
  joined '.' (address.parts.map fun part => Decimal.ofNat part.toNat)

/-- The first of the longest rows of zeros, as its start and its length. -/
def longestZeros (groups : List UInt16) : Nat × Nat :=
  (List.range groups.length).foldl
    (fun best start =>
      let length := ((groups.drop start).takeWhile (· == 0)).length
      if best.2 < length then (start, length) else best)
    (0, 0)

def groupsText (groups : List UInt16) : List Char :=
  joined ':' (groups.map fun group => Hex.shortest group.toNat)

def Address6.embedded? (address : Address6) : Option Address4 :=
  if address.groups.take 6 = [0, 0, 0, 0, 0, 0xffff] then
    Address4.ofParts? ((address.groups.drop 6).flatMap fun group =>
      [UInt8.ofNat (group.toNat / 256), UInt8.ofNat (group.toNat % 256)])
  else none

def Address6.textChars (address : Address6) : List Char :=
  match address.embedded? with
  | some embedded => "::ffff:".toList ++ embedded.textChars
  | none =>
      let (start, length) := longestZeros address.groups
      if 1 < length then
        groupsText (address.groups.take start) ++ [':', ':']
          ++ groupsText (address.groups.drop (start + length))
      else groupsText address.groups

def SocketAddress.textChars : SocketAddress → List Char
  | v4 address port => address.textChars ++ ':' :: Decimal.ofNat port.toNat
  | v6 address scope port =>
      '[' :: address.textChars
        ++ (if scope = 0 then [] else '%' :: Decimal.ofNat scope.toNat)
        ++ ']' :: ':' :: Decimal.ofNat port.toNat

def Address6.ofGroups? (groups : List UInt16) : Option Address6 :=
  if length_groups : groups.length = 8 then some ⟨groups, length_groups⟩ else none

def SocketAddress.text (address : SocketAddress) : String :=
  String.ofList address.textChars

/-! ## Reading -/

namespace Scan

def separated {α : Type} (mark : Char) (first : Bool) (item : Scan α) : Scan α :=
  fun letters => if first then item letters else (Text.Scan.literal mark letters).bind item

def decimal (limit : Nat) : Scan Nat := fun letters =>
  let digits := letters.takeWhile Decimal.isDigit
  let value := Decimal.value digits
  if digits.isEmpty || limit < value then none else some (value, letters.drop digits.length)

def part : Scan UInt8 := fun letters =>
  let digits := letters.takeWhile Decimal.isDigit
  if 3 < digits.length || (digits.head? == some '0' && digits.length != 1) then none
  else (decimal 255 letters).map fun (value, rest) => (UInt8.ofNat value, rest)

def group : Scan UInt16 := fun letters =>
  let digits := letters.takeWhile fun letter => (Hex.value? letter).isSome
  if digits.isEmpty || 4 < digits.length then none
  else (Hex.number? digits).map fun value => (UInt16.ofNat value, letters.drop digits.length)

def address4 : Scan Address4 := fun letters => do
  let (part₁, rest) ← separated '.' true part letters
  let (part₂, rest) ← separated '.' false part rest
  let (part₃, rest) ← separated '.' false part rest
  let (part₄, rest) ← separated '.' false part rest
  return (⟨[part₁, part₂, part₃, part₄], rfl⟩, rest)

def groupsOf (address : Address4) : List UInt16 :=
  match address.parts with
  | [part₁, part₂, part₃, part₄] =>
      [UInt16.ofNat (256 * part₁.toNat + part₂.toNat), UInt16.ofNat (256 * part₃.toNat + part₄.toNat)]
  | _ => []

/-- As many groups as there are, up to a number. The last two may have the form of a version 4
address; then no group can follow, and the answer says so. -/
def groups : (first : Bool) → (room : Nat) → List Char → List UInt16 × Bool × List Char
  | _, 0, letters => ([], false, letters)
  | first, room + 1, letters =>
      match if 0 < room then separated ':' first address4 letters else none with
      | some (address, rest) => (groupsOf address, true, rest)
      | none =>
          match separated ':' first group letters with
          | some (head, rest) =>
              let (tail, embeds, rest) := groups false room rest
              (head :: tail, embeds, rest)
          | none => ([], false, letters)

/-- Eight groups, or fewer with two colons in the place of one group of zeros or more. -/
def address6 : Scan Address6 := fun letters => do
  let (head, embeds, rest) := groups true 8 letters
  if head.length = 8 then
    return (← Address6.ofGroups? head, rest)
  else if embeds then none
  else
    let rest ← Text.Scan.literal ':' rest
    let rest ← Text.Scan.literal ':' rest
    let (tail, _, rest) := groups true (7 - head.length) rest
    let zeros := List.replicate (8 - head.length - tail.length) 0
    return (← Address6.ofGroups? (head ++ zeros ++ tail), rest)

def port : Scan UInt16 := fun letters => do
  let (value, rest) ← decimal 0xffff (← Text.Scan.literal ':' letters)
  return (UInt16.ofNat value, rest)

def scope : Scan UInt32 := fun letters => do
  let (value, rest) ← decimal 0xffffffff (← Text.Scan.literal '%' letters)
  return (UInt32.ofNat value, rest)

def socket4 : Scan SocketAddress := fun letters => do
  let (address, rest) ← address4 letters
  let (port, rest) ← port rest
  return (.v4 address port, rest)

def socket6 : Scan SocketAddress := fun letters => do
  let rest ← Text.Scan.literal '[' letters
  let (address, rest) ← address6 rest
  let (scope, rest) := (scope rest).getD (0, rest)
  let rest ← Text.Scan.literal ']' rest
  let (port, rest) ← port rest
  return (.v6 address scope port, rest)

end Scan

def SocketAddress.ofText? (text : String) : Option SocketAddress :=
  match Scan.socket4 text.toList <|> Scan.socket6 text.toList with
  | some (address, []) => some address
  | _ => none

example : (SocketAddress.ofText? "127.0.0.1:08000").map SocketAddress.text
    = some "127.0.0.1:8000" := by decide +kernel
example : (SocketAddress.ofText? "[1:0:0:2::1.2.3.4%7]:80").map SocketAddress.text
    = some "[1::2:0:0:102:304%7]:80" := by decide +kernel
example : SocketAddress.ofText? "localhost:80" = none := by decide +kernel

end Turnstile.Config
